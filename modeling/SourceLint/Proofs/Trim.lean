import Mathlib.Data.List.DropRight
import SourceLint.Text.Blank

/-!
# Trimming a list at both ends

Blanks around a text and silent pieces around a path are taken away in the same
manner: from the front as long as they last, then from the back. What is left
has no such element at either end, and this with what was taken away tells it
(`trim_eq_iff`).

* `rdropWhile_cons`   — trimming the back, from the front.
* `trim_append`       — what stands around a list and is trimmed away does not
  matter.
* `trim_eq_iff`       — what is left.
* `filterMap_trim`    — what comes to nothing is not missed.
* `Text.trim_eq`      — blanks around a text.
-/

namespace SourceLint

variable {α : Type} {p : α → Bool}

-- ---------------------------------------------------------------------------
-- Lists
-- ---------------------------------------------------------------------------

/-- An element stays in front of what is left behind it, and is itself at the
back if nothing is left. -/
theorem rdropWhile_cons (a : α) (as : List α) :
    (a :: as).rdropWhile p = match as.rdropWhile p with
      | [] => if p a then [] else [a]
      | b :: bs => a :: b :: bs := by
  rw [List.rdropWhile, List.rdropWhile, List.reverse_cons, List.dropWhile_append]
  cases h : as.reverse.dropWhile p with
  | nil => by_cases ha : p a <;> simp [ha]
  | cons b bs =>
    obtain ⟨c, cs, hRev⟩ : ∃ c cs, (b :: bs).reverse = c :: cs :=
      List.exists_cons_of_ne_nil (by simp)
    simp only [List.isEmpty_cons, Bool.false_eq_true, if_false, List.reverse_append, hRev]
    rw [← hRev]
    rfl

/-- What stands around a list and is trimmed away does not matter. -/
theorem trim_append {before behind : List α} (hBefore : ∀ a ∈ before, p a = true)
    (hBehind : ∀ a ∈ behind, p a = true) (as : List α) :
    ((before ++ as ++ behind).dropWhile p).rdropWhile p = (as.dropWhile p).rdropWhile p := by
  have hReverse : ∀ a ∈ behind.reverse, p a = true := fun a ha =>
    hBehind a (List.mem_reverse.1 ha)
  rw [List.append_assoc, List.dropWhile_append_of_pos hBefore, List.dropWhile_append]
  split
  case isTrue h =>
    -- nothing is left but what stands behind
    rw [List.dropWhile_eq_nil_iff.2 hBehind, List.isEmpty_iff.1 h]
  case isFalse =>
    rw [List.rdropWhile, List.reverse_append, List.dropWhile_append_of_pos hReverse,
      List.rdropWhile]

/-- A list whose ends are not trimmed away is left as it is. -/
theorem trim_eq_self {as : List α} (hHead : ∀ a, as.head? = some a → p a = false)
    (hLast : ∀ a, as.getLast? = some a → p a = false) :
    (as.dropWhile p).rdropWhile p = as := by
  have hFront : as.dropWhile p = as := by
    cases as with
    | nil => rfl
    | cons a as => exact List.dropWhile_cons_of_neg (by simp [hHead a rfl])
  rw [hFront, List.rdropWhile_eq_self_iff]
  intro hNe
  rw [hLast _ (List.getLast?_eq_some_getLast hNe)]
  exact Bool.false_ne_true

/-- **What trimming leaves**: the part of the list with no such element at its
ends and only such elements around it. -/
theorem trim_eq_iff {as core : List α} :
    (as.dropWhile p).rdropWhile p = core ↔
      (∃ before behind, (∀ a ∈ before, p a = true) ∧ (∀ a ∈ behind, p a = true) ∧
        as = before ++ core ++ behind) ∧
      (∀ a, core.head? = some a → p a = false) ∧
      ∀ a, core.getLast? = some a → p a = false := by
  constructor
  · rintro rfl
    have hSplit : as.takeWhile p ++ as.dropWhile p = as := List.takeWhile_append_dropWhile
    have hSplitEnd : (as.dropWhile p).rdropWhile p ++ (as.dropWhile p).rtakeWhile p =
        as.dropWhile p := List.rdropWhile_append_rtakeWhile ..
    refine ⟨⟨as.takeWhile p, (as.dropWhile p).rtakeWhile p, ?_, ?_, ?_⟩, ?_, ?_⟩
    · exact fun a ha => List.all_eq_true.1 List.all_takeWhile a ha
    · exact fun a ha => List.mem_rtakeWhile_imp ha
    · rw [List.append_assoc, hSplitEnd, hSplit]
    · intro a ha
      -- the front of what is left is the front of what the first trimming leaves
      have hHead : (as.dropWhile p).head? = some a := by
        rw [← hSplitEnd, List.head?_append, ha]
        rfl
      have := List.head?_dropWhile_not p as
      rw [hHead] at this
      simpa using this
    · intro a ha
      have hNe : (as.dropWhile p).rdropWhile p ≠ [] := by
        intro hNil
        rw [hNil] at ha
        exact Option.some_ne_none a ha.symm
      have hLast := List.rdropWhile_last_not p (as.dropWhile p) hNe
      rw [List.getLast?_eq_some_getLast hNe, Option.some.injEq] at ha
      rw [← ha]
      simpa using hLast
  · intro hCore
    obtain ⟨⟨before, behind, hBefore, hBehind, rfl⟩, hHead, hLast⟩ := hCore
    rw [trim_append hBefore hBehind, trim_eq_self hHead hLast]

/-- Elements that come to nothing are trimmed away unnoticed. -/
theorem filterMap_trim {β : Type} (f : α → Option β) (as : List α) :
    ((as.dropWhile fun a => (f a).isNone).rdropWhile fun a => (f a).isNone).filterMap f =
      as.filterMap f := by
  have hNothing : ∀ bs : List α, (∀ b ∈ bs, (f b).isNone = true) → bs.filterMap f = [] :=
    fun bs h => List.filterMap_eq_nil_iff.2 fun b hb => Option.isNone_iff_eq_none.1 (h b hb)
  generalize hCore : (as.dropWhile fun a => (f a).isNone).rdropWhile (fun a => (f a).isNone) = core
  obtain ⟨⟨before, behind, hBefore, hBehind, rfl⟩, -⟩ := trim_eq_iff.1 hCore
  rw [List.filterMap_append, List.filterMap_append, hNothing before hBefore,
    hNothing behind hBehind, List.nil_append, List.append_nil]

-- ---------------------------------------------------------------------------
-- Texts
-- ---------------------------------------------------------------------------

namespace Text

theorem trimEnd_eq_rdropWhile (cs : List Char) : trimEnd cs = cs.rdropWhile isBlank := by
  induction cs with
  | nil => rfl
  | cons c cs ih =>
    rw [trimEnd, ih, rdropWhile_cons]
    cases cs.rdropWhile isBlank <;> rfl

/-- The blanks around a text are trimmed away. -/
theorem trim_eq (cs : List Char) : trim cs = (cs.dropWhile isBlank).rdropWhile isBlank := by
  rw [trim, trimEnd_eq_rdropWhile]

theorem trim_isInfix (cs : List Char) : trim cs <:+: cs := by
  rw [trim_eq]
  exact (List.rdropWhile_prefix _ _).isInfix.trans (List.dropWhile_suffix _).isInfix

/-- A trimmed text begins with no blank. -/
theorem isBlank_of_head?_trim {cs : List Char} {c : Char} (h : (trim cs).head? = some c) :
    isBlank c = false :=
  (trim_eq_iff.1 (trim_eq cs).symm).2.1 c h

/-- A trimmed text ends with no blank. -/
theorem isBlank_of_getLast?_trim {cs : List Char} {c : Char}
    (h : (trim cs).getLast? = some c) : isBlank c = false :=
  (trim_eq_iff.1 (trim_eq cs).symm).2.2 c h

end Text

end SourceLint
