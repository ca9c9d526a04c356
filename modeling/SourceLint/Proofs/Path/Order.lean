import Mathlib.Order.Defs.Unbundled
import SourceLint.Path.Basic

/-!
# Paths — their order

Paths are put in order component by component. Any two can be compared, and two
stand both ways only if they have the same components, however they are
written.

* `Path.le_antisymm`             — paths that stand both ways name the same.
* `Path.compare_append_left`     — what two paths begin with does not count.
-/

namespace SourceLint.Path

theorem Component.compare_name (s t : String) :
    compare (Component.name s) (Component.name t) = compare s t :=
  Ordering.then_eq

/-- The order of components is that of the constructors, and that of the names
among each other. -/
instance : Std.TransOrd Component where
  eq_swap {a b} := by
    cases a <;> cases b <;> try rfl
    case name.name s t =>
      rw [Component.compare_name, Component.compare_name]
      exact Std.OrientedCmp.eq_swap
  isLE_trans {a b c} hab hbc := by
    cases a <;> cases b <;> try contradiction
    all_goals cases c <;> first | rfl | contradiction | skip
    case name.name.name s t u =>
      rw [Component.compare_name] at hab hbc ⊢
      exact Std.TransCmp.isLE_trans hab hbc

instance : Std.LawfulEqOrd Component where
  eq_of_compare {a b} h := by
    cases a <;> cases b <;> first | rfl | contradiction | skip
    case name.name s t =>
      rw [Component.compare_name] at h
      rw [Std.LawfulEqCmp.eq_of_compare h]

instance : Std.Total fun p q : Path => p.le q = true where
  total p q := by
    have hSwap : compare q.components p.components =
        (compare p.components q.components).swap := Std.OrientedCmp.eq_swap
    rw [le, le, hSwap]
    cases compare p.components q.components <;> decide

instance : IsTrans Path fun p q => p.le q = true where
  trans _ _ _ hpq hqr := Std.TransCmp.isLE_trans hpq hqr

/-- Paths that stand both ways name the same. -/
theorem le_antisymm {p q : Path} (hpq : p.le q = true) (hqp : q.le p = true) :
    p.components = q.components :=
  Std.LawfulEqCmp.eq_of_compare (Std.OrientedCmp.isLE_antisymm hpq hqp)

/-- What two paths begin with does not count. -/
theorem compare_append_left (cs ds es : List Component) :
    compare (cs ++ ds) (cs ++ es) = compare ds es := by
  induction cs with
  | nil => rfl
  | cons c cs ih =>
    have hStep : compare (c :: (cs ++ ds)) (c :: (cs ++ es)) =
        (compare c c).then (compare (cs ++ ds) (cs ++ es)) := List.compareLex_cons_cons
    have hSelf : compare c c = .eq := Std.ReflCmp.compare_self
    rw [List.cons_append, List.cons_append, hStep, hSelf, ih]
    rfl

end SourceLint.Path
