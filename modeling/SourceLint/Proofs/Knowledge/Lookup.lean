import Mathlib.Order.Defs.PartialOrder
import SourceLint.Knowledge.Basic
import SourceLint.Proofs.FirstOccurrence

/-!
# Lookup — the first entry of a symbol counts

Knowledge is told by its answers: `k ≤ k'` says that `k'` gives every answer
that `k` gives. Entries that are added behind others answer for symbols that
had no entry and change no answer, so knowledge can only grow in this manner.

* `lookup_ofEntries`     — the answers of a list of entries.
* `ofEntries_le_append`  — entries that are added change no answer.
-/

namespace SourceLint.Knowledge

/-- The symbol's header is that of its first entry. -/
theorem lookup_ofEntries (entries : List (String × String)) (s : String) :
    (ofEntries entries).lookup s = entries.lookup s :=
  lookup_distinctOn s entries

/-- Every answer of the one is an answer of the other. Entries in another order
may give the same answers, so this is no more than a preorder. -/
instance : Preorder Knowledge where
  le k k' := ∀ s h, k.lookup s = some h → k'.lookup s = some h
  le_refl _ _ _ hLookup := hLookup
  le_trans _ _ _ hLe hLe' s h hLookup := hLe' s h (hLe s h hLookup)

/-- **Entries that are added change no answer.** -/
theorem ofEntries_le_append (entries more : List (String × String)) :
    ofEntries entries ≤ ofEntries (entries ++ more) := by
  intro s h hLookup
  rw [lookup_ofEntries] at hLookup
  rw [lookup_ofEntries, List.lookup_append, hLookup]
  rfl

end SourceLint.Knowledge
