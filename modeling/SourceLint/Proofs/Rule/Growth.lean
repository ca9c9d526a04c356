import SourceLint.Proofs.Knowledge.Lookup
import SourceLint.Proofs.Rule.SystemIncludes

/-!
# Growth — what more knowledge does to a report

With more knowledge a symbol may turn from unknown to known. Then its header is
missing or it is included, and in the second case it is no longer in excess. So
the three kinds of problems move in different directions: unknown symbols and
excess headers can only become fewer, missing headers can only become more, and
where no symbol was unknown nothing moves.

* `missing_mem_reconcile_of_le`, `unknown_mem_reconcile_of_le`,
  `excess_mem_reconcile_of_le`  — the three directions.
* `reconcile_eq_of_le`          — nothing moves where no symbol is unknown.
* `reconcile_append`            — entries that are added to a list.
-/

namespace SourceLint

variable {k k' : Knowledge} {text s h : String} {n : Nat}

/-- A header that is missing stays missing. -/
theorem missing_mem_reconcile_of_le (hLe : k ≤ k') (hMissing : .missing s h n ∈ reconcile k text) :
    .missing s h n ∈ reconcile k' text := by
  obtain ⟨hUse, hLookup, hNotIncluded⟩ := missing_mem_reconcile.1 hMissing
  exact missing_mem_reconcile.2 ⟨hUse, hLe s h hLookup, hNotIncluded⟩

/-- A symbol that is still unknown was unknown before. -/
theorem unknown_mem_reconcile_of_le (hLe : k ≤ k') (hUnknown : .unknown s n ∈ reconcile k' text) :
    .unknown s n ∈ reconcile k text := by
  obtain ⟨hUse, hLookup⟩ := unknown_mem_reconcile.1 hUnknown
  refine unknown_mem_reconcile.2 ⟨hUse, ?_⟩
  cases hBefore : k.lookup s with
  | none => rfl
  | some h =>
    rw [hLe s h hBefore] at hLookup
    exact absurd hLookup (Option.some_ne_none h)

/-- A header that is still in excess was in excess before. -/
theorem excess_mem_reconcile_of_le (hLe : k ≤ k') (hExcess : .excess h n ∈ reconcile k' text) :
    .excess h n ∈ reconcile k text := by
  obtain ⟨hInclude, hUnused⟩ := excess_mem_reconcile.1 hExcess
  exact excess_mem_reconcile.2 ⟨hInclude, fun u hu hLookup =>
    hUnused u hu (hLe u.name h hLookup)⟩

/-- A report asks for the headers of the used symbols only. -/
theorem reconcile_congr (hSame : ∀ u ∈ usages text, k.lookup u.name = k'.lookup u.name) :
    reconcile k text = reconcile k' text := by
  have hUses : ∀ included, (usages text).filterMap (useProblem? k included) =
      (usages text).filterMap (useProblem? k' included) := by
    intro included
    apply List.filterMap_congr
    intro u hu
    rw [useProblem?, useProblem?, hSame u hu]
  have hNeeded : neededHeaders k (usages text) = neededHeaders k' (usages text) :=
    List.filterMap_congr hSame
  rw [reconcile, reconcile, hUses, hNeeded]

/-- **Where no symbol is unknown** more knowledge changes nothing. -/
theorem reconcile_eq_of_le (hLe : k ≤ k') (hKnown : ∀ s n, .unknown s n ∉ reconcile k text) :
    reconcile k' text = reconcile k text := by
  symm
  apply reconcile_congr
  intro u hu
  cases hLookup : k.lookup u.name with
  | none => exact absurd (unknown_mem_reconcile.2 ⟨hu, hLookup⟩) (hKnown u.name u.line)
  | some h => rw [hLe u.name h hLookup]

/-- A text that passes has no unknown symbol. -/
theorem unknown_not_mem_of_success (hPasses : reconcileOutcome (reconcile k text) = .success) :
    ∀ s n, .unknown s n ∉ reconcile k text := by
  intro s n
  rw [reconcileOutcome_eq_success.1 hPasses]
  exact List.not_mem_nil

/--
**Growing knowledge.** Let entries be added behind a list of entries, for new
symbols or for symbols that have an entry. Then every header that was missing
is still missing, every symbol that is still unknown was unknown, and every
header that is still in excess was in excess. If no symbol was unknown the two
reports are the same; so a text that passes keeps passing.
-/
theorem reconcile_append (entries more : List (String × String)) (text : String) :
    (∀ s h n, .missing s h n ∈ reconcile (.ofEntries entries) text →
      .missing s h n ∈ reconcile (.ofEntries (entries ++ more)) text) ∧
    (∀ s n, .unknown s n ∈ reconcile (.ofEntries (entries ++ more)) text →
      .unknown s n ∈ reconcile (.ofEntries entries) text) ∧
    (∀ h n, .excess h n ∈ reconcile (.ofEntries (entries ++ more)) text →
      .excess h n ∈ reconcile (.ofEntries entries) text) ∧
    ((∀ s n, .unknown s n ∉ reconcile (.ofEntries entries) text) →
      reconcile (.ofEntries (entries ++ more)) text = reconcile (.ofEntries entries) text) ∧
    (reconcileOutcome (reconcile (.ofEntries entries) text) = .success →
      reconcileOutcome (reconcile (.ofEntries (entries ++ more)) text) = .success) := by
  have hLe := Knowledge.ofEntries_le_append entries more
  refine ⟨fun _ _ _ => missing_mem_reconcile_of_le hLe, fun _ _ => unknown_mem_reconcile_of_le hLe,
    fun _ _ => excess_mem_reconcile_of_le hLe, reconcile_eq_of_le hLe, ?_⟩
  intro hPasses
  rwa [reconcile_eq_of_le hLe (unknown_not_mem_of_success hPasses)]

/-- Entries that are added, one for a symbol that has another header already. -/
def setEntries : List (String × String) :=
  [("std::set", "container/set"), ("std::any", "any")]

/-- A text whose only symbol is known keeps its report, with the header of the
first entry. -/
theorem reconcile_append_setEntries :
    (∀ s n, .unknown s n ∉ reconcile (.ofEntries [("std::set", "set")]) "std::set<int> s;") ∧
    reconcile (.ofEntries ([("std::set", "set")] ++ setEntries)) "std::set<int> s;" =
      [.missing "std::set" "set" 1] := by
  have hReport : reconcile (.ofEntries [("std::set", "set")]) "std::set<int> s;" =
      [.missing "std::set" "set" 1] := by
    decide +kernel
  have hKnown : ∀ s n,
      .unknown s n ∉ reconcile (.ofEntries [("std::set", "set")]) "std::set<int> s;" := by
    intro s n
    rw [hReport]
    simp
  refine ⟨hKnown, ?_⟩
  rw [(reconcile_append _ setEntries _).2.2.2.1 hKnown, hReport]

end SourceLint
