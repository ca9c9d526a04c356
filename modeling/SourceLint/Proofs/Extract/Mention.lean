import Mathlib.Data.Nat.Find
import SourceLint.Extract.Mention
import SourceLint.Proofs.FirstOccurrence
import SourceLint.Proofs.Text.LineBreak
import SourceLint.Proofs.Text.Scan

/-!
# Mentions — where a name stands first

`mentions` lists each name that a recogniser finds, with the line of its first
find. For a recogniser whose finds lie apart this module ties the list to the
*places* of the text: a name is listed with a line exactly if its first find
stands in that line, and the names come in the order of their first finds.

* `mem_mentions_iff`    — what is listed.
* `mentions_in_order`   — the order of the list.
* `map_name_mentions`   — the names alone, for any recogniser.
* `mentions_terminated` — names that were written line by line.
-/

namespace SourceLint

variable {find : Text.Recogniser String} {text : String}

-- ---------------------------------------------------------------------------
-- Names without their lines
-- ---------------------------------------------------------------------------

/-- The names that are found in the lines, whatever the numbers of the lines. -/
theorem map_name_occurrences (n : Nat) (ls : List (List Char)) :
    (occurrences find (Text.numberedFrom n ls)).map (·.name) =
      ls.flatMap (Text.findAll find) := by
  induction ls generalizing n with
  | nil => rfl
  | cons l ls ih =>
    rw [List.flatMap_cons, ← ih (n + 1)]
    simp [Text.numberedFrom, occurrences, Function.comp_def]

theorem occurrences_sorted (ls : List (List Char)) :
    (occurrences find (Text.numbered ls)).Pairwise fun m m' => m.line ≤ m'.line := by
  rw [occurrences, List.pairwise_flatMap]
  constructor
  · rintro ⟨l, n⟩ -
    rw [List.pairwise_map]
    exact List.pairwise_of_forall fun _ _ => Nat.le_refl n
  · refine (Text.numbered_sorted ls).imp ?_
    rintro ⟨l, n⟩ ⟨l', n'⟩ hLess m hm m' hm'
    obtain ⟨_, -, rfl⟩ := List.mem_map.1 hm
    obtain ⟨_, -, rfl⟩ := List.mem_map.1 hm'
    exact Nat.le_of_lt hLess

/-- The names of the mentions are those that are found, each once. -/
theorem map_name_mentions :
    (mentions find text).map (·.name) =
      distinctOn id ((Text.lines text.toList).flatMap (Text.findAll find)) := by
  rw [← map_name_occurrences 1, distinctOn_map]
  rfl

theorem nodup_map_name_mentions : ((mentions find text).map (·.name)).Nodup :=
  nodup_map_distinctOn _

/-- A name is mentioned exactly if it is found in some line. -/
theorem mem_map_name_mentions {name : String} :
    name ∈ (mentions find text).map (·.name) ↔
      ∃ l ∈ Text.lines text.toList, name ∈ Text.findAll find l := by
  rw [mentions, mem_map_distinctOn, Text.numbered, map_name_occurrences, List.mem_flatMap]

/-- Nothing is mentioned where nothing is found in any line. -/
theorem mentions_eq_nil (hNone : ∀ l ∈ Text.lines text.toList, Text.findAll find l = []) :
    mentions find text = [] := by
  rw [← List.map_eq_nil_iff, map_name_mentions, List.flatMap_eq_nil_iff.2 hNone]
  rfl

/-- A recogniser that ignores `\r` finds the same in a line whether or not the
line break takes a `\r` away. -/
theorem findAll_dropReturn (hIgnores : Text.Ignores find '\r') (hEmpty : find [] = none)
    (l : List Char) : Text.findAll find (Text.dropReturn l) = Text.findAll find l := by
  rcases Text.dropReturn_cases l with hSame | hReturn
  · rw [hSame]
  · have hFinds := Text.findAll_append_one hIgnores hEmpty (Text.dropReturn l)
    rw [← hReturn] at hFinds
    exact hFinds.symm

/-- In a text that was written line by line the recogniser finds what it finds
in the lines, if it ignores the `\r` that may be lost at the end of a line. -/
theorem flatMap_findAll_terminated {ls : List (List Char)} (hLines : ∀ l ∈ ls, '\n' ∉ l)
    (hIgnores : Text.Ignores find '\r') (hEmpty : find [] = none) :
    (Text.lines (Text.terminated ls)).flatMap (Text.findAll find) =
      ls.flatMap (Text.findAll find) := by
  rw [Text.lines_terminated hLines, List.flatMap_map]
  congr 1
  funext l
  exact findAll_dropReturn hIgnores hEmpty l

/-- The same of lines that were joined, where no line break ends the last. -/
theorem flatMap_findAll_intercalate {ls : List (List Char)} (hLines : ∀ l ∈ ls, '\n' ∉ l)
    (hIgnores : Text.Ignores find '\r') (hEmpty : find [] = none) :
    (Text.lines (['\n'].intercalate ls)).flatMap (Text.findAll find) =
      ls.flatMap (Text.findAll find) := by
  induction ls with
  | nil => rfl
  | cons l ls ih =>
    obtain ⟨hl, hRest⟩ := List.forall_mem_cons.1 hLines
    cases ls with
    | nil =>
      rw [List.intercalate_singleton, Text.lines_of_not_mem hl]
      by_cases hNil : l = []
      · simp [hNil]
      · simp [hNil]
    | cons l' ls =>
      rw [List.intercalate_cons_cons, List.append_assoc, List.singleton_append,
        Text.lines_append_newline, Text.lines_append_one hl, List.flatMap_append, ih hRest,
        List.flatMap_singleton, findAll_dropReturn hIgnores hEmpty]
      exact List.flatMap_cons.symm

-- ---------------------------------------------------------------------------
-- Names written line by line
-- ---------------------------------------------------------------------------

theorem occurrences_cons (l : List Char) (n : Nat) (ls : List (List Char × Nat)) :
    occurrences find ((l, n) :: ls) =
      (Text.findAll find l).map (⟨·, n⟩) ++ occurrences find ls :=
  List.flatMap_cons

theorem occurrences_append (ls ls' : List (List Char × Nat)) :
    occurrences find (ls ++ ls') = occurrences find ls ++ occurrences find ls' :=
  List.flatMap_append

/-- Lines in which nothing is found. -/
theorem occurrences_of_none {ls : List (List Char)} (hNone : ∀ l ∈ ls, Text.findAll find l = [])
    (n : Nat) : occurrences find (ls.zipIdx n) = [] := by
  induction ls generalizing n with
  | nil => rfl
  | cons l ls ih =>
    obtain ⟨hFirst, hRest⟩ := List.forall_mem_cons.1 hNone
    rw [List.zipIdx_cons, occurrences_cons, hFirst, ih hRest]
    rfl

/-- Lines in each of which the name is found for which it was written. -/
theorem occurrences_of_one {write : String → List Char} {names : List String}
    (hOne : ∀ name ∈ names, Text.findAll find (write name) = [name]) (n : Nat) :
    occurrences find ((names.map write).zipIdx n) =
      (names.zipIdx n).map fun p => ⟨p.1, p.2⟩ := by
  induction names generalizing n with
  | nil => rfl
  | cons name names ih =>
    obtain ⟨hFirst, hRest⟩ := List.forall_mem_cons.1 hOne
    rw [List.map_cons, List.zipIdx_cons, occurrences_cons, hFirst, ih hRest]
    rfl

/-- **Names written one a line** are mentioned once each, in the lines where
they are written first, if nothing is found in the other lines. -/
theorem mentions_terminated {write : String → List Char} {before after : List (List Char)}
    {names : List String}
    (hLines : ∀ l ∈ before ++ names.map write ++ after, '\n' ∉ l ∧ l.getLast? ≠ some '\r')
    (hBefore : ∀ l ∈ before, Text.findAll find l = [])
    (hOne : ∀ name ∈ names, Text.findAll find (write name) = [name])
    (hAfter : ∀ l ∈ after, Text.findAll find l = []) :
    mentions find (String.ofList (Text.terminated (before ++ names.map write ++ after))) =
      (distinctOn id names).map fun name => ⟨name, before.length + names.idxOf name + 1⟩ := by
  have hAll : occurrences find ((before ++ names.map write ++ after).zipIdx 1) =
      (names.zipIdx (1 + before.length)).map fun p => ⟨p.1, p.2⟩ := by
    rw [List.zipIdx_append, List.zipIdx_append, occurrences_append, occurrences_append,
      occurrences_of_none hBefore, occurrences_of_one hOne, occurrences_of_none hAfter,
      List.nil_append, List.append_nil]
  rw [mentions, String.toList_ofList, Text.lines_terminated_eq hLines,
    Text.numbered_eq_zipIdx, hAll, distinctOn_map]
  show ((distinctOn Prod.fst (names.zipIdx (1 + before.length))).map _) = _
  rw [distinctOn_zipIdx, List.map_map]
  apply List.map_congr_left
  intro name _
  simp only [Function.comp_apply, Mention.mk.injEq, true_and]
  omega

-- ---------------------------------------------------------------------------
-- Places
-- ---------------------------------------------------------------------------

/-- One place of a text comes before another in the order of reading. -/
def Before (line column line' column' : Nat) : Prop :=
  line < line' ∨ line = line' ∧ column < column'

theorem Before.asymm {line column line' column' : Nat} (h : Before line column line' column') :
    ¬ Before line' column' line column := by
  unfold Before at *
  omega

/-- The recogniser finds the name at this line and column. -/
def FoundAt (find : Text.Recogniser String) (text name : String) (line column : Nat) : Prop :=
  ∃ l, Text.IsLine text line l ∧ column < l.length ∧
    ∃ size, find (l.drop column) = some (name, size)

/-- The recogniser finds the name here and nowhere before. -/
def FirstFoundAt (find : Text.Recogniser String) (text name : String) (line column : Nat) :
    Prop :=
  FoundAt find text name line column ∧
    ∀ line' column', FoundAt find text name line' column' → ¬ Before line' column' line column

/-- A name is first found at one place only. -/
theorem FirstFoundAt.unique {name : String} {line column line' column' : Nat}
    (h : FirstFoundAt find text name line column)
    (h' : FirstFoundAt find text name line' column') : line = line' ∧ column = column' := by
  have h₁ := h.2 line' column' h'.1
  have h₂ := h'.2 line column h.1
  unfold Before at h₁ h₂
  omega

/-- A line holds the first find of a name exactly if the name is found in it
and in no earlier line. -/
theorem exists_firstFoundAt_iff {name : String} {line : Nat} :
    (∃ column, FirstFoundAt find text name line column) ↔
      (∃ column, FoundAt find text name line column) ∧
        ∀ line' < line, ∀ column', ¬ FoundAt find text name line' column' := by
  classical
  constructor
  · intro hInLine
    obtain ⟨column, hFound, hFirst⟩ := hInLine
    exact ⟨⟨column, hFound⟩, fun line' hLess column' hFound' =>
      hFirst line' column' hFound' (Or.inl hLess)⟩
  · intro hInLine
    obtain ⟨hFound, hEarlier⟩ := hInLine
    -- inside the line the least column
    refine ⟨Nat.find hFound, Nat.find_spec hFound, ?_⟩
    rintro line' column' hFound' (hLess | ⟨rfl, hLess⟩)
    · exact hEarlier line' hLess column' hFound'
    · exact Nat.find_min hFound hLess hFound'

/-- All finds with line and column, in the order of reading. -/
def placedFinds (find : Text.Recogniser String) (text : String) : List (Mention × Nat) :=
  (Text.numbered (Text.lines text.toList)).flatMap fun (l, n) =>
    (Text.findsByColumn find l).map fun (name, column) => (⟨name, n⟩, column)

theorem mem_placedFinds {name : String} {line column : Nat} :
    (⟨name, line⟩, column) ∈ placedFinds find text ↔ FoundAt find text name line column := by
  rw [placedFinds, List.mem_flatMap]
  constructor
  · intro hPlaced
    obtain ⟨⟨l, n⟩, hLine, hFind⟩ := hPlaced
    obtain ⟨⟨name', column'⟩, hMem, hEq⟩ := List.mem_map.1 hFind
    simp only [Prod.mk.injEq, Mention.mk.injEq] at hEq
    obtain ⟨⟨rfl, rfl⟩, rfl⟩ := hEq
    exact ⟨l, Text.mem_numbered_lines.1 hLine, Text.mem_findsByColumn.1 hMem⟩
  · intro hFoundAt
    obtain ⟨l, hLine, hFind⟩ := hFoundAt
    exact ⟨(l, line), Text.mem_numbered_lines.2 hLine,
      List.mem_map.2 ⟨(name, column), Text.mem_findsByColumn.2 hFind, rfl⟩⟩

theorem placedFinds_sorted :
    (placedFinds find text).Pairwise fun p q => Before p.1.line p.2 q.1.line q.2 := by
  rw [placedFinds, List.pairwise_flatMap]
  constructor
  · -- inside a line the columns increase
    rintro ⟨l, n⟩ -
    rw [List.pairwise_map]
    exact (Text.findsByColumn_sorted l).imp fun h => Or.inr ⟨rfl, h⟩
  · -- from line to line the numbers increase
    refine (Text.numbered_sorted _).imp ?_
    rintro ⟨l, n⟩ ⟨l', n'⟩ hLess p hp q hq
    obtain ⟨_, -, rfl⟩ := List.mem_map.1 hp
    obtain ⟨_, -, rfl⟩ := List.mem_map.1 hq
    exact Or.inl hLess

/-- If finds lie apart the mentions are the first of all finds for each name. -/
theorem mentions_eq_map_placedFinds (hApart : Text.FindsApart find) :
    mentions find text =
      (distinctOn (fun p : Mention × Nat => p.1.name) (placedFinds find text)).map Prod.fst := by
  have hAll : occurrences find (Text.numbered (Text.lines text.toList)) =
      (placedFinds find text).map Prod.fst := by
    rw [occurrences, placedFinds, List.map_flatMap]
    congr 1
    funext ⟨l, n⟩
    simp [Text.findAll_eq_map_findsByColumn hApart, Function.comp_def]
  rw [mentions, hAll, distinctOn_map]
  rfl

/-- A find that is kept is the first one of its name. -/
theorem firstFoundAt_of_mem {p : Mention × Nat}
    (hp : p ∈ distinctOn (fun p : Mention × Nat => p.1.name) (placedFinds find text)) :
    FirstFoundAt find text p.1.name p.1.line p.2 := by
  refine ⟨mem_placedFinds.1 ((distinctOn_sublist _).subset hp), ?_⟩
  intro line column hFound hBefore
  rcases rel_of_mem_distinctOn placedFinds_sorted hp (mem_placedFinds.2 hFound) rfl with
    hEq | hAfter
  · rw [← hEq] at hBefore
    exact hBefore.asymm hBefore
  · exact hBefore.asymm hAfter

-- ---------------------------------------------------------------------------
-- What is listed, and in which order
-- ---------------------------------------------------------------------------

/-- **A name is listed with a line** exactly if its first find stands there. -/
theorem mem_mentions_iff (hApart : Text.FindsApart find) {name : String} {line : Nat} :
    ⟨name, line⟩ ∈ mentions find text ↔ ∃ column, FirstFoundAt find text name line column := by
  rw [mentions_eq_map_placedFinds hApart, List.mem_map]
  constructor
  · intro hMention
    obtain ⟨⟨m, column⟩, hp, rfl⟩ := hMention
    exact ⟨column, firstFoundAt_of_mem hp⟩
  · intro hSomewhere
    obtain ⟨column, hFirst⟩ := hSomewhere
    have hKept : ∃ p ∈ distinctOn (fun p : Mention × Nat => p.1.name) (placedFinds find text),
        p.1.name = name := exists_mem_distinctOn (mem_placedFinds.2 hFirst.1)
    obtain ⟨⟨⟨name', line'⟩, column'⟩, hp, rfl⟩ := hKept
    obtain ⟨rfl, rfl⟩ := (firstFoundAt_of_mem hp).unique hFirst
    exact ⟨_, hp, rfl⟩

/-- **The mentions come in the order of their first finds.** -/
theorem mentions_in_order (hApart : Text.FindsApart find) (text : String) :
    ∃ column : Mention → Nat,
      (∀ m ∈ mentions find text, FirstFoundAt find text m.name m.line (column m)) ∧
      (mentions find text).Pairwise fun m m' => Before m.line (column m) m'.line (column m') := by
  classical
  have hFirst : ∀ m ∈ mentions find text, ∃ c, FirstFoundAt find text m.name m.line c :=
    fun _ hm => (mem_mentions_iff hApart).1 hm
  choose! column hColumn using hFirst
  refine ⟨column, hColumn, ?_⟩
  rw [mentions_eq_map_placedFinds hApart] at hColumn ⊢
  rw [List.pairwise_map]
  -- the column chosen for a mention is the one of the find that is kept
  have hKept : ∀ p ∈ distinctOn (fun p : Mention × Nat => p.1.name) (placedFinds find text),
      column p.1 = p.2 := fun p hp =>
    ((hColumn _ (List.mem_map_of_mem hp)).unique (firstFoundAt_of_mem hp)).2
  refine List.Pairwise.imp_of_mem ?_ (placedFinds_sorted.sublist (distinctOn_sublist _))
  intro p q hp hq hBefore
  rw [hKept p hp, hKept q hq]
  exact hBefore

end SourceLint
