import SourceLint.Proofs.Extract.Include
import SourceLint.Proofs.Extract.Usage

/-!
# Mentions of a text that goes on

A text that goes on behind a line break mentions what its first part mentions,
and then whatever is new in the second. The line break ends the last line of the
first part, so nothing is found across it. The `\r` that it may take from that
line is part of no symbol and no header, and the number of a line grows with the
line breaks in front of it, whether or not the first part ends in one.

* `occurrences_append_newline` — the line break changes nothing in the first.
* `mentions_readsOn`           — any recogniser that ignores `\r` reads on.
* `usages_includes_readOn`     — symbols and headers.
-/

namespace SourceLint

/-- The mention with `n` lines more in front of it. -/
def Mention.below (n : Nat) (m : Mention) : Mention :=
  { m with line := m.line + n }

/-- **Reading on**: behind a text and a line break the extraction yields what
the text yields, and then what is new in the text behind, as many lines further
down as stand in front of it. -/
def ReadsOn (extract : String → List Mention) : Prop :=
  ∀ a b : String,
    extract (a ++ "\n" ++ b) =
      extract a ++ ((extract b).filter fun m => m.name ∉ (extract a).map (·.name)).map
        (Mention.below (1 + a.toList.count '\n'))

-- ---------------------------------------------------------------------------
-- Lines further down
-- ---------------------------------------------------------------------------

variable {find : Text.Recogniser String}

/-- Lines that stand further down are read alike. -/
theorem occurrences_zipIdx_add (ls : List (List Char)) (n k : Nat) :
    occurrences find (ls.zipIdx (n + k)) =
      (occurrences find (ls.zipIdx n)).map (Mention.below k) := by
  induction ls generalizing n with
  | nil => rfl
  | cons l ls ih =>
    rw [List.zipIdx_cons, List.zipIdx_cons, occurrences_cons, occurrences_cons, List.map_append,
      List.map_map, Nat.add_right_comm, ih (n + 1)]
    rfl

/-- A line break at the end ends the last line or adds an empty one. -/
theorem occurrences_append_newline (hIgnores : Text.Ignores find '\r') (hEmpty : find [] = none)
    (t : List Char) (n : Nat) :
    occurrences find ((Text.lines (t ++ ['\n'])).zipIdx n) =
      occurrences find ((Text.lines t).zipIdx n) := by
  obtain ⟨x, l, hx, hl, rfl⟩ := Text.exists_wholeLines_append t
  rw [List.append_assoc, Text.lines_append_wholeLines hx, Text.lines_append_wholeLines hx,
    Text.lines_append_one hl, Text.lines_of_not_mem hl, List.zipIdx_append, List.zipIdx_append,
    occurrences_append, occurrences_append]
  congr 1
  rw [List.zipIdx_cons, occurrences_cons, findAll_dropReturn hIgnores hEmpty]
  by_cases hNil : l = []
  · rw [if_pos hNil, hNil, Text.findAll_nil]
    rfl
  · rw [if_neg hNil, List.zipIdx_cons, occurrences_cons]

-- ---------------------------------------------------------------------------
-- Reading on
-- ---------------------------------------------------------------------------

/-- **A recogniser that ignores `\r` reads on** behind a line break. -/
theorem mentions_readsOn (hIgnores : Text.Ignores find '\r') (hEmpty : find [] = none) :
    ReadsOn (mentions find) := by
  intro a b
  have hText : (a ++ "\n" ++ b).toList = a.toList ++ '\n' :: b.toList := by
    rw [String.toList_append, String.toList_append, List.append_assoc]
    rfl
  have hSplit : occurrences find (Text.numbered (Text.lines (a ++ "\n" ++ b).toList)) =
      occurrences find (Text.numbered (Text.lines a.toList)) ++
        (occurrences find (Text.numbered (Text.lines b.toList))).map
          (Mention.below (1 + a.toList.count '\n')) := by
    rw [hText, Text.lines_append_newline, Text.numbered_eq_zipIdx, Text.numbered_eq_zipIdx,
      Text.numbered_eq_zipIdx, List.zipIdx_append, occurrences_append,
      occurrences_append_newline hIgnores hEmpty, Text.length_lines_append_newline,
      Nat.add_comm _ 1, occurrences_zipIdx_add]
  unfold mentions
  rw [hSplit, distinctOn_append, distinctOn_map, List.filter_map]
  congr 2
  -- the names that occur in the first part are those of its mentions
  apply List.filter_congr
  intro m _
  have hNames : (Mention.below (1 + a.toList.count '\n') m).name = m.name := rfl
  simp only [Function.comp_apply, hNames, mem_map_distinctOn]

/--
**Extraction reads on.** For any two texts the symbols of the first, a line
break and the second are those of the first and then the new ones of the second,
so many lines further down as the first has line breaks, and one more. The same
holds of the headers. The first text may be empty, it may end in a line break,
and it may end in a `\r`, which then belongs to the line break.
-/
theorem usages_includes_readOn : ReadsOn usages ∧ ReadsOn includes :=
  ⟨mentions_readsOn (qualifiedSymbol_ignores (by decide)) rfl,
    mentions_readsOn (systemInclude_ignores (by decide) (by decide)) rfl⟩

/-- A `\r` at the seam, and a line break at the end of the first text. -/
example :
    usages ("std::map\r" ++ "\n" ++ "std::map<std::set>") =
        [⟨"std::map", 1⟩, ⟨"std::set", 2⟩] ∧
      includes ("#include <map>\n" ++ "\n" ++ "#include <set>") = [⟨"map", 1⟩, ⟨"set", 3⟩] := by
  decide +kernel

end SourceLint
