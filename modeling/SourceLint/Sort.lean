/-!
# Stable sorting

* `sortBy` — the list in the order of `le`; elements that stand both ways in
  that order keep their places relative to each other;
* `sortBy_perm` — sorting only moves elements.
-/

namespace SourceLint

/-- The element before the first one that it does not come after. -/
def insertBy {α : Type} (le : α → α → Bool) (a : α) : List α → List α
  | [] => [a]
  | b :: bs => if le a b then a :: b :: bs else b :: insertBy le a bs

/-- The list in the order of `le`, stably. -/
def sortBy {α : Type} (le : α → α → Bool) : List α → List α
  | [] => []
  | a :: as => insertBy le a (sortBy le as)

theorem insertBy_perm {α : Type} {le : α → α → Bool} (a : α) (as : List α) :
    (insertBy le a as).Perm (a :: as) := by
  induction as with
  | nil => exact .refl _
  | cons b bs ih =>
    rw [insertBy]
    split
    · exact .refl _
    · exact (ih.cons b).trans (.swap a b bs)

/-- Sorting only moves elements. -/
theorem sortBy_perm {α : Type} {le : α → α → Bool} (as : List α) :
    (sortBy le as).Perm as := by
  induction as with
  | nil => exact .refl _
  | cons a as ih => exact (insertBy_perm a _).trans (ih.cons a)

end SourceLint
