/-!
# First occurrences

Symbols, headers, test groups and discovered files are all listed once, where
they first occur.

* `distinctOn` — of the elements with one key, only the first;
* `mem_map_distinctOn`, `nodup_map_distinctOn` — every key of the list is
  there, and once;
* `distinctOn_append` — what a second list adds to a first.
-/

namespace SourceLint

/-- The list without the elements whose key an earlier element has. -/
def distinctOn {α κ : Type} [DecidableEq κ] (key : α → κ) : List α → List α
  | [] => []
  | a :: as => a :: (distinctOn key as).filter fun b => key b ≠ key a

variable {α κ : Type} [DecidableEq κ] {key : α → κ}

/-- What is kept was there, and in that order. -/
theorem distinctOn_sublist (as : List α) : (distinctOn key as).Sublist as := by
  induction as with
  | nil => exact .slnil
  | cons a as ih => exact (List.filter_sublist.trans ih).cons_cons a

/-- The keys that occur are those of the list. -/
theorem mem_map_distinctOn {as : List α} {k : κ} :
    k ∈ (distinctOn key as).map key ↔ k ∈ as.map key := by
  induction as with
  | nil => simp [distinctOn]
  | cons a as ih =>
    by_cases h : k = key a
    · simp [distinctOn, h]
    · simp only [List.mem_map] at ih
      simp only [distinctOn, List.map_cons, List.mem_cons, h, false_or, List.mem_map,
        List.mem_filter, decide_eq_true_eq]
      rw [← ih]
      constructor
      · rintro ⟨b, ⟨hb, _⟩, rfl⟩
        exact ⟨b, hb, rfl⟩
      · rintro ⟨b, hb, rfl⟩
        exact ⟨b, ⟨hb, h⟩, rfl⟩

/-- No key occurs twice. -/
theorem nodup_map_distinctOn (as : List α) : ((distinctOn key as).map key).Nodup := by
  induction as with
  | nil => simp [distinctOn]
  | cons a as ih =>
    rw [distinctOn, List.map_cons, List.nodup_cons]
    exact ⟨by simp, ih.sublist (List.filter_sublist.map key)⟩

/-- Behind another list, a list keeps the elements whose keys that one does not
have. -/
theorem distinctOn_append (as bs : List α) :
    distinctOn key (as ++ bs)
      = distinctOn key as ++ (distinctOn key bs).filter fun b => key b ∉ as.map key := by
  induction as with
  | nil => simp [distinctOn, List.filter_eq_self.2]
  | cons a as ih =>
    simp only [List.cons_append, distinctOn, ih, List.filter_append, List.filter_filter,
      List.map_cons, List.mem_cons]
    congr 2
    apply List.filter_congr
    intro b _
    simp [not_or]

end SourceLint
