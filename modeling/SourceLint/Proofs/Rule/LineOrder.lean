import SourceLint.Proofs.Rule.Repair

/-!
# Order of lines — it does not matter to what is reported

The report on a text lists its symbols and headers in the order in which they
are read, with the lines where they stand first. All else in it depends on
*which* symbols are used and *which* headers are included, and that depends on
which lines the text has: not on their order, and not on how often each occurs.

* `map_withoutLine_reconcile`  — a report without lines, from names alone.
* `perm_map_withoutLine`       — the same names give the same report.
* `reconcile_sameLines`        — the same lines give the same report.
-/

namespace SourceLint

namespace IncludeProblem

/-- The three kinds of problems. -/
inductive Kind where
  | unknown
  | missing
  | excess
deriving DecidableEq, Repr

/-- The kind of a problem. -/
def kind : IncludeProblem → Kind
  | .unknown _ _ => .unknown
  | .missing _ _ _ => .missing
  | .excess _ _ => .excess

theorem kind_withoutLine (p : IncludeProblem) : p.withoutLine.kind = p.kind := by
  cases p <;> rfl

end IncludeProblem

variable {k : Knowledge} {text text' : String}

-- ---------------------------------------------------------------------------
-- Reports without lines
-- ---------------------------------------------------------------------------

theorem map_withoutLine_useProblem? (included : List String) (use : Mention) :
    (useProblem? k included use).map IncludeProblem.withoutLine =
      useProblem? k included ⟨use.name, 0⟩ := by
  unfold useProblem?
  cases k.lookup use.name with
  | none => rfl
  | some h => by_cases hIncluded : h ∈ included <;> simp [hIncluded, IncludeProblem.withoutLine]

theorem map_withoutLine_includeProblem? (needed : List String) (inclusion : Mention) :
    (includeProblem? needed inclusion).map IncludeProblem.withoutLine =
      includeProblem? needed ⟨inclusion.name, 0⟩ := by
  unfold includeProblem?
  by_cases hNeeded : inclusion.name ∈ needed <;> simp [hNeeded, IncludeProblem.withoutLine]

/-- **Without its lines a report depends on names only**: those of the used
symbols and those of the included headers. -/
theorem map_withoutLine_reconcile :
    (reconcile k text).map IncludeProblem.withoutLine =
      ((usages text).map (·.name)).filterMap
          (fun s => useProblem? k ((includes text).map (·.name)) ⟨s, 0⟩) ++
        ((includes text).map (·.name)).filterMap
          (fun h => includeProblem? (neededHeaders k (usages text)) ⟨h, 0⟩) := by
  rw [reconcile, List.map_append, List.map_filterMap, List.map_filterMap, List.filterMap_map,
    List.filterMap_map]
  simp only [map_withoutLine_useProblem?, map_withoutLine_includeProblem?, Function.comp_def]

theorem useProblem?_congr {included included' : List String}
    (hSame : ∀ h, h ∈ included ↔ h ∈ included') (use : Mention) :
    useProblem? k included use = useProblem? k included' use := by
  simp only [useProblem?, hSame]

theorem includeProblem?_congr {needed needed' : List String}
    (hSame : ∀ h, h ∈ needed ↔ h ∈ needed') (inclusion : Mention) :
    includeProblem? needed inclusion = includeProblem? needed' inclusion := by
  simp only [includeProblem?, hSame]

/-- **The same names give the same report**, lines and order aside. -/
theorem perm_map_withoutLine
    (hUses : ∀ s, s ∈ (usages text).map (·.name) ↔ s ∈ (usages text').map (·.name))
    (hIncludes : ∀ h, h ∈ (includes text).map (·.name) ↔ h ∈ (includes text').map (·.name)) :
    ((reconcile k text).map IncludeProblem.withoutLine).Perm
      ((reconcile k text').map IncludeProblem.withoutLine) := by
  -- no name is listed twice, so the same names are the same list in another order
  have hUsePerm : ((usages text).map (·.name)).Perm ((usages text').map (·.name)) :=
    (List.perm_ext_iff_of_nodup nodup_map_name_mentions nodup_map_name_mentions).2 hUses
  have hIncludePerm : ((includes text).map (·.name)).Perm ((includes text').map (·.name)) :=
    (List.perm_ext_iff_of_nodup nodup_map_name_mentions nodup_map_name_mentions).2 hIncludes
  have hNeeded : ∀ h, h ∈ neededHeaders k (usages text) ↔ h ∈ neededHeaders k (usages text') := by
    intro h
    simp only [neededHeaders_eq_filterMap, List.mem_filterMap, hUses]
  rw [map_withoutLine_reconcile, map_withoutLine_reconcile]
  simp only [useProblem?_congr hIncludes, includeProblem?_congr hNeeded]
  exact (hUsePerm.filterMap _).append (hIncludePerm.filterMap _)

/-- A text passes if its report is empty, and only the length tells. -/
theorem reconcileOutcome_eq_of_length {ps qs : List IncludeProblem} (h : ps.length = qs.length) :
    reconcileOutcome ps = reconcileOutcome qs := by
  cases ps with
  | nil => rw [List.eq_nil_of_length_eq_zero h.symm]
  | cons p ps =>
    cases qs with
    | nil => simp at h
    | cons q qs => rfl

-- ---------------------------------------------------------------------------
-- Texts made of the same lines
-- ---------------------------------------------------------------------------

/-- A name is mentioned in joined lines exactly if it is found in one of the
lines. -/
theorem mem_map_name_mentions_intercalate {find : Text.Recogniser String} {ls : List String}
    (hLines : ∀ l ∈ ls, '\n' ∉ l.toList) (hIgnores : Text.Ignores find '\r')
    (hEmpty : find [] = none) {name : String} :
    name ∈ (mentions find ("\n".intercalate ls)).map (·.name) ↔
      ∃ l ∈ ls, name ∈ Text.findAll find l.toList := by
  have hNewline : "\n".toList = ['\n'] := by decide
  have hChars : ∀ l ∈ ls.map String.toList, '\n' ∉ l := by
    intro l hl
    obtain ⟨s, hs, rfl⟩ := List.mem_map.1 hl
    exact hLines s hs
  rw [map_name_mentions, mem_distinctOn_id, String.toList_intercalate, hNewline,
    flatMap_findAll_intercalate hChars hIgnores hEmpty, List.flatMap_map, List.mem_flatMap]

/-- What is found in lines does not depend on their order and number. -/
theorem mem_mentions_of_sameLines {find : Text.Recogniser String} {ls ls' : List String}
    (hLines : ∀ l ∈ ls, '\n' ∉ l.toList) (hSame : ∀ l, l ∈ ls ↔ l ∈ ls')
    (hIgnores : Text.Ignores find '\r') (hEmpty : find [] = none) (name : String) :
    name ∈ (mentions find ("\n".intercalate ls)).map (·.name) ↔
      name ∈ (mentions find ("\n".intercalate ls')).map (·.name) := by
  have hLines' : ∀ l ∈ ls', '\n' ∉ l.toList := fun l hl => hLines l ((hSame l).2 hl)
  rw [mem_map_name_mentions_intercalate hLines hIgnores hEmpty,
    mem_map_name_mentions_intercalate hLines' hIgnores hEmpty]
  simp only [hSame]

/--
**Order and repetition of lines do not matter.** Two texts that are joined from
the same lines, in whatever order and however often each, both pass or both
fail; without their lines the two reports consist of the same problems, and of
equally many of each kind.
-/
theorem reconcile_sameLines (k : Knowledge) (ls ls' : List String)
    (hLines : ∀ l ∈ ls, '\n' ∉ l.toList) (hSame : ∀ l, l ∈ ls ↔ l ∈ ls') :
    reconcileOutcome (reconcile k ("\n".intercalate ls)) =
      reconcileOutcome (reconcile k ("\n".intercalate ls')) ∧
    ((reconcile k ("\n".intercalate ls)).map IncludeProblem.withoutLine).Perm
      ((reconcile k ("\n".intercalate ls')).map IncludeProblem.withoutLine) ∧
    ∀ kind : IncludeProblem.Kind,
      (reconcile k ("\n".intercalate ls)).countP (·.kind = kind) =
        (reconcile k ("\n".intercalate ls')).countP (·.kind = kind) := by
  have hPerm : ((reconcile k ("\n".intercalate ls)).map IncludeProblem.withoutLine).Perm
      ((reconcile k ("\n".intercalate ls')).map IncludeProblem.withoutLine) :=
    perm_map_withoutLine
      (mem_mentions_of_sameLines hLines hSame (qualifiedSymbol_ignores (by decide)) rfl)
      (mem_mentions_of_sameLines hLines hSame (systemInclude_ignores (by decide) (by decide)) rfl)
  refine ⟨?_, hPerm, ?_⟩
  · have hLength := hPerm.length_eq
    rw [List.length_map, List.length_map] at hLength
    exact reconcileOutcome_eq_of_length hLength
  · intro kind
    have hCount := hPerm.countP_eq (·.kind = kind)
    rw [List.countP_map, List.countP_map] at hCount
    simpa only [Function.comp_def, IncludeProblem.kind_withoutLine] using hCount

/-- Lines that give a problem of each kind. -/
def mapLines : List String :=
  ["#include <map>\r", "std::set<std::any> s;", "", "std::map m; // std::any"]

/-- The same lines in another order, some of them repeated. The `\r` of the
include line is no longer a part of a line break. -/
def shuffledMapLines : List String :=
  ["", "std::map m; // std::any", "std::set<std::any> s;", "std::map m; // std::any", "",
    "#include <map>\r"]

theorem reconcile_sameLines_shuffled :
    (∀ l ∈ mapLines, '\n' ∉ l.toList) ∧
    (∀ l, l ∈ mapLines ↔ l ∈ shuffledMapLines) ∧
    reconcile sampleKnowledge ("\n".intercalate mapLines) =
      [.missing "std::set" "set" 2, .unknown "std::any" 2, .unknown "std::map" 4,
        .excess "map" 1] ∧
    ((reconcile sampleKnowledge ("\n".intercalate mapLines)).map IncludeProblem.withoutLine).Perm
      ((reconcile sampleKnowledge ("\n".intercalate shuffledMapLines)).map
        IncludeProblem.withoutLine) := by
  have hLines : ∀ l ∈ mapLines, '\n' ∉ l.toList := by decide
  have hThere : ∀ l ∈ mapLines, l ∈ shuffledMapLines := by decide
  have hBack : ∀ l ∈ shuffledMapLines, l ∈ mapLines := by decide
  have hSame : ∀ l, l ∈ mapLines ↔ l ∈ shuffledMapLines := fun l => ⟨hThere l, hBack l⟩
  refine ⟨hLines, hSame, ?_, (reconcile_sameLines _ _ _ hLines hSame).2.1⟩
  decide +kernel

end SourceLint
