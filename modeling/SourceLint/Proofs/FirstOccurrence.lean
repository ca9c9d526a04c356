import Mathlib.Data.List.Basic
import Mathlib.Data.List.Induction
import SourceLint.Distinct

/-!
# First occurrences, told by position

`distinctOn` keeps an element and throws away the later elements with its key.
This module says the same without that recursion: an element is kept exactly
if no element *before it* has its key.

* `mem_distinctOn_iff`              — which elements are kept.
* `rel_of_mem_distinctOn`           — in a sorted list the least are kept.
* `lookup_distinctOn`               — what is found for a key.
* `distinctOn_map`                  — keys may be read before or after a map.
* `distinctOn_filter`               — and elements left out before or after.
* `distinctOn_zipIdx`               — the positions of what is kept.
* `distinctOn_eq_firstOccurrences`  — the list as a whole.
-/

namespace SourceLint

variable {α β κ : Type} [DecidableEq κ] {key : α → κ}

-- ---------------------------------------------------------------------------
-- Which elements are kept
-- ---------------------------------------------------------------------------

/-- An element is kept exactly where no element before it has its key. -/
theorem mem_distinctOn_iff {a : α} {as : List α} :
    a ∈ distinctOn key as ↔
      ∃ pre post, as = pre ++ a :: post ∧ key a ∉ pre.map key := by
  induction as with
  | nil => simp [distinctOn]
  | cons b bs ih =>
    rw [distinctOn, List.mem_cons, List.mem_filter, ih]
    constructor
    · rintro (rfl | ⟨⟨pre, post, rfl, hNew⟩, hKey⟩)
      · exact ⟨[], bs, rfl, by simp⟩
      · refine ⟨b :: pre, post, rfl, ?_⟩
        rw [List.map_cons, List.mem_cons, not_or]
        exact ⟨by simpa using hKey, hNew⟩
    · intro hFirst
      obtain ⟨pre, post, hSplit, hNew⟩ := hFirst
      cases pre with
      | nil =>
        rw [List.nil_append, List.cons.injEq] at hSplit
        exact Or.inl hSplit.1.symm
      | cons c pre =>
        rw [List.cons_append, List.cons.injEq] at hSplit
        obtain ⟨rfl, rfl⟩ := hSplit
        rw [List.map_cons, List.mem_cons, not_or] at hNew
        exact Or.inr ⟨⟨pre, post, rfl, hNew.2⟩, by simpa using hNew.1⟩

/-- An element is kept exactly where its key finds it. -/
theorem mem_distinctOn_iff_find? {a : α} {as : List α} :
    a ∈ distinctOn key as ↔ as.find? (fun b => key b = key a) = some a := by
  rw [mem_distinctOn_iff, List.find?_eq_some_iff_append]
  constructor
  · rintro ⟨pre, post, hSplit, hNew⟩
    refine ⟨by simp, pre, post, hSplit, ?_⟩
    intro b hb
    have hNe : key b ≠ key a := fun h => hNew (h ▸ List.mem_map_of_mem hb)
    simpa using hNe
  · rintro ⟨-, pre, post, hSplit, hNew⟩
    refine ⟨pre, post, hSplit, ?_⟩
    intro hMem
    obtain ⟨b, hb, hKey⟩ := List.mem_map.1 hMem
    have hNot := hNew b hb
    simp [hKey] at hNot

/-- In a sorted list the element that is kept for a key stands before all
others with that key. -/
theorem rel_of_mem_distinctOn {r : α → α → Prop} {as : List α} (hSorted : as.Pairwise r)
    {a b : α} (ha : a ∈ distinctOn key as) (hb : b ∈ as) (hKey : key b = key a) :
    b = a ∨ r a b := by
  obtain ⟨pre, post, rfl, hNew⟩ := mem_distinctOn_iff.1 ha
  rcases List.mem_append.1 hb with hPre | hPost
  · exact absurd (hKey ▸ List.mem_map_of_mem hPre) hNew
  · rcases List.mem_cons.1 hPost with rfl | hPost
    · exact Or.inl rfl
    · have hTail := (List.pairwise_append.1 hSorted).2.1
      exact Or.inr (List.rel_of_pairwise_cons hTail hPost)

theorem mem_distinctOn_id {as : List κ} {a : κ} : a ∈ distinctOn id as ↔ a ∈ as := by
  have hKey : a ∈ (distinctOn id as).map id ↔ a ∈ as.map id := mem_map_distinctOn
  rwa [List.map_id, List.map_id] at hKey

/-- Every element has a kept one with its key. -/
theorem exists_mem_distinctOn {as : List α} {a : α} (ha : a ∈ as) :
    ∃ b ∈ distinctOn key as, key b = key a := by
  have hKey : key a ∈ (distinctOn key as).map key :=
    mem_map_distinctOn.2 (List.mem_map_of_mem ha)
  exact List.mem_map.1 hKey

-- ---------------------------------------------------------------------------
-- Looking keys up
-- ---------------------------------------------------------------------------

section Lookup

variable [BEq κ] [LawfulBEq κ]

omit [DecidableEq κ] in
/-- Where all entries of a key are kept, others do not matter to it. -/
theorem lookup_filter {p : κ × β → Bool} {k : κ} (h : ∀ b, p (k, b) = true)
    (entries : List (κ × β)) : (entries.filter p).lookup k = entries.lookup k := by
  induction entries with
  | nil => rfl
  | cons e entries ih =>
    obtain ⟨k', b⟩ := e
    by_cases hp : p (k', b) = true
    · rw [List.filter_cons_of_pos hp, List.lookup_cons, List.lookup_cons, ih]
    · have hOther : (k == k') = false := by
        rw [beq_eq_false_iff_ne]
        rintro rfl
        exact hp (h b)
      rw [List.filter_cons_of_neg hp, ih, List.lookup_cons, hOther]

theorem lookup_filter_ne {k other : κ} (hNe : other ≠ k) (entries : List (κ × β)) :
    (entries.filter (·.1 ≠ k)).lookup other = entries.lookup other :=
  lookup_filter (fun _ => by simpa using hNe) entries

/-- The entry that is found for a key is the one that is kept. -/
theorem lookup_distinctOn (k : κ) (entries : List (κ × β)) :
    (distinctOn Prod.fst entries).lookup k = entries.lookup k := by
  induction entries with
  | nil => rfl
  | cons e entries ih =>
    obtain ⟨k', b⟩ := e
    rw [distinctOn, List.lookup_cons, List.lookup_cons]
    by_cases hk : k = k'
    · simp [hk]
    · rw [lookup_filter_ne hk, ih]

end Lookup

-- ---------------------------------------------------------------------------
-- The list as a whole
-- ---------------------------------------------------------------------------

/-- Keys may be read before or after a map. -/
theorem distinctOn_map (f : β → α) (bs : List β) :
    distinctOn key (bs.map f) = (distinctOn (key ∘ f) bs).map f := by
  induction bs with
  | nil => rfl
  | cons b bs ih =>
    rw [List.map_cons, distinctOn, ih, distinctOn, List.map_cons, List.filter_map]
    rfl

/-- What is left out for its key may be left out before or after. -/
theorem distinctOn_filter {p : α → Bool} {as : List α}
    (h : ∀ a ∈ as, ∀ b ∈ as, key a = key b → p a = p b) :
    distinctOn key (as.filter p) = (distinctOn key as).filter p := by
  induction as with
  | nil => rfl
  | cons a as ih =>
    have hRest := ih fun b hb c hc =>
      h b (List.mem_cons_of_mem _ hb) c (List.mem_cons_of_mem _ hc)
    rw [distinctOn]
    cases ha : p a with
    | true =>
      rw [List.filter_cons_of_pos ha, List.filter_cons_of_pos ha, distinctOn, hRest,
        List.filter_comm]
    | false =>
      -- what is kept has other keys than the first element
      rw [List.filter_cons_of_neg (by simp [ha]), List.filter_cons_of_neg (by simp [ha]), hRest,
        List.filter_filter]
      apply List.filter_congr
      intro b hb
      have hMem := List.mem_cons_of_mem a ((distinctOn_sublist as).mem hb)
      have hOther : p b = true → key b ≠ key a := fun hp hKey =>
        Bool.false_ne_true (ha.symm.trans ((h b hMem a (List.mem_cons_self ..) hKey).symm.trans hp))
      cases hp : p b with
      | true => simp [hOther hp]
      | false => simp

/-- Only which keys are equal matters. -/
theorem distinctOn_congr [DecidableEq β] {key' : α → β} (h : ∀ a b, key a = key b ↔ key' a = key' b)
    (as : List α) : distinctOn key as = distinctOn key' as := by
  induction as with
  | nil => rfl
  | cons a as ih => simp only [distinctOn, ih, ne_eq, h]

/-- Each element stands first where it is found first. -/
theorem distinctOn_zipIdx (n : Nat) (as : List κ) :
    distinctOn Prod.fst (as.zipIdx n) = (distinctOn id as).map fun a => (a, n + as.idxOf a) := by
  induction as generalizing n with
  | nil => rfl
  | cons a as ih =>
    rw [List.zipIdx_cons, distinctOn, ih, distinctOn, List.map_cons, List.filter_map,
      List.idxOf_cons_self, Nat.add_zero]
    congr 1
    apply List.map_congr_left
    intro b hb
    have hNe : a ≠ b := by
      rintro rfl
      simp at hb
    rw [List.idxOf_cons_ne as hNe, Nat.succ_add_eq_add_succ]

/-- The elements before which no element has their key. -/
def firstOccurrences (key : α → κ) (as : List α) : List α :=
  (as.zipIdx.filter fun (a, i) => key a ∉ (as.take i).map key).map Prod.fst

/-- One more element at the end is a first occurrence if its key is new, and
changes nothing for the elements before it. -/
theorem firstOccurrences_append_one (as : List α) (a : α) :
    firstOccurrences key (as ++ [a]) =
      firstOccurrences key as ++ if key a ∈ as.map key then [] else [a] := by
  have hBefore : ∀ b i, (b, i) ∈ as.zipIdx → (as ++ [a]).take i = as.take i := by
    intro b i hp
    have hi : i < as.length := by
      have := List.snd_lt_add_of_mem_zipIdx hp
      omega
    exact List.take_append_of_le_length (Nat.le_of_lt hi)
  have hOld : (as.zipIdx.filter fun (b, i) => key b ∉ ((as ++ [a]).take i).map key)
      = as.zipIdx.filter fun (b, i) => key b ∉ (as.take i).map key := by
    apply List.filter_congr
    rintro ⟨b, i⟩ hp
    simp only [hBefore b i hp]
  rw [firstOccurrences, List.zipIdx_append, List.filter_append, hOld, List.map_append,
    ← firstOccurrences]
  congr 1
  by_cases h : key a ∈ as.map key
  · simp [h]
  · simp [h]

/-- **Listing each key once is listing the first occurrences.** -/
theorem distinctOn_eq_firstOccurrences (as : List α) :
    distinctOn key as = firstOccurrences key as := by
  -- the last element is the one that sees all the others
  induction as using List.reverseRecOn with
  | nil => rfl
  | append_singleton as a ih =>
    rw [distinctOn_append, firstOccurrences_append_one, ih]
    congr 1
    by_cases h : key a ∈ as.map key
    · rw [if_pos h]
      simpa [distinctOn] using h
    · rw [if_neg h]
      simpa [distinctOn] using h

end SourceLint
