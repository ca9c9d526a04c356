import SourceLint.Proofs.Extract.Piece
import SourceLint.Rule.TestGroup

/-!
# Test groups — every wrong group is reported, each once

A test macro is `TEST(group, name)`, where both may be empty. No macro begins
inside another one: it would bring a second `(`, and its `TEST` cannot reach
over the `)` of the outer one. So the scan loses none, not even behind one that
was only begun, as in `TEST(TEST(A, B)`, and the rule can be told by the macros
that the lines contain:

* `testMacro_reads`           — what the recogniser accepts.
* `testMacro_findsApart`      — test macros do not overlap.
* `checkTestGroup_eq_nil_iff` — the files that pass.
* `checkTestGroup_exact`      — all that is reported, with lines and order.
-/

namespace SourceLint

/-- The text consists of word characters; it may be empty. -/
def IsWordText (s : String) : Prop :=
  ∀ c ∈ s.toList, Text.isWord c = true

instance (s : String) : Decidable (IsWordText s) :=
  List.decidableBAll _ _

theorem isWordText_takeWhile (t : List Char) :
    IsWordText (String.ofList (t.takeWhile Text.isWord)) := by
  unfold IsWordText
  rw [String.toList_ofList]
  exact List.all_eq_true.1 List.all_takeWhile

/-- The macro of a test in a group. -/
def testCall (group name : String) : List Char :=
  ("TEST(" ++ group ++ ", " ++ name ++ ")").toList

/-- A test macro of that group. -/
def IsTest (group : String) (piece : List Char) : Prop :=
  IsWordText group ∧ ∃ name, IsWordText name ∧ piece = testCall group name

theorem testCall_eq (group name : String) :
    testCall group name =
      "TEST(".toList ++ (group.toList ++ (", ".toList ++ (name.toList ++ [')']))) := by
  have hEnd : ")".toList = [')'] := by decide
  simp only [testCall, String.toList_append, List.append_assoc, hEnd]

theorem length_testCall (group name : String) :
    (testCall group name).length =
      "TEST(, )".length + group.toList.length + name.toList.length := by
  have hLead : "TEST(".toList.length = 5 := by rfl
  have hComma : ", ".toList.length = 2 := by rfl
  have hFixed : "TEST(, )".length = 8 := by rfl
  rw [testCall_eq]
  simp only [List.length_append, List.length_singleton]
  omega

-- ---------------------------------------------------------------------------
-- The recogniser
-- ---------------------------------------------------------------------------

/-- What is found is a test macro of that group. -/
theorem isTest_of_testMacro {cs : List Char} {group : String} {size : Nat}
    (hFind : testMacro cs = some (group, size)) :
    ∃ piece, IsTest group piece ∧ piece <+: cs ∧ size = piece.length := by
  unfold testMacro at hFind
  split at hFind
  · simp at hFind
  · next rest hLead =>
    dsimp only at hFind
    split at hFind
    · simp at hFind
    · next rest' hComma =>
      split at hFind
      · next tail hEnd =>
        rw [Option.some.injEq, Prod.mk.injEq] at hFind
        obtain ⟨rfl, rfl⟩ := hFind
        rw [Text.dropStart?_eq_some_iff] at hLead hComma
        have hRest : rest = rest.takeWhile Text.isWord ++ (", ".toList ++ rest') := by
          rw [← hComma, List.takeWhile_append_dropWhile]
        have hRest' : rest' = rest'.takeWhile Text.isWord ++ ')' :: tail := by
          rw [← hEnd, List.takeWhile_append_dropWhile]
        refine ⟨_, ⟨isWordText_takeWhile rest, _, isWordText_takeWhile rest', rfl⟩,
          ⟨tail, ?_⟩, ?_⟩
        · calc testCall _ _ ++ tail
              = "TEST(".toList ++ (rest.takeWhile Text.isWord ++ (", ".toList ++
                  (rest'.takeWhile Text.isWord ++ ')' :: tail))) := by
                rw [testCall_eq]
                simp only [String.toList_ofList, List.append_assoc, List.singleton_append]
            _ = "TEST(".toList ++ rest := by rw [← hRest', ← hRest]
            _ = cs := hLead.symm
        · rw [length_testCall, String.toList_ofList, String.toList_ofList]
      · simp at hFind

/-- A test macro in front of a text is found. -/
theorem testMacro_testCall {group name : String} (hGroup : IsWordText group)
    (hName : IsWordText name) (tail : List Char) :
    testMacro (testCall group name ++ tail) = some (group, (testCall group name).length) := by
  have hComma : ", ".toList = [',', ' '] := by decide
  have hLead : Text.dropStart? "TEST(".toList (testCall group name ++ tail) =
      some (group.toList ++ ',' :: ' ' :: (name.toList ++ ')' :: tail)) := by
    rw [Text.dropStart?_eq_some_iff, testCall_eq, hComma]
    simp only [List.append_assoc, List.cons_append, List.nil_append]
  have hNext : Text.dropStart? ", ".toList (',' :: ' ' :: (name.toList ++ ')' :: tail)) =
      some (name.toList ++ ')' :: tail) := by
    rw [Text.dropStart?_eq_some_iff, hComma]
    rfl
  have hStopGroup : Text.isWord ',' = false := by decide
  have hStopName : Text.isWord ')' = false := by decide
  obtain ⟨hTakeGroup, hDropGroup⟩ :=
    takeWhile_append_stop hGroup hStopGroup (' ' :: (name.toList ++ ')' :: tail))
  obtain ⟨hTakeName, hDropName⟩ := takeWhile_append_stop hName hStopName tail
  rw [length_testCall]
  unfold testMacro
  simp only [hLead, hTakeGroup, hDropGroup, hNext, hTakeName, hDropName, String.ofList_toList]

/-- **What the recogniser accepts**: a text that begins with a test macro. -/
theorem testMacro_reads : Reads testMacro IsTest where
  find_iff := by
    intro cs group size
    constructor
    · exact isTest_of_testMacro
    · rintro ⟨piece, ⟨hGroup, name, hName, rfl⟩, ⟨tail, rfl⟩, rfl⟩
      exact testMacro_testCall hGroup hName tail
  ne_nil := by
    rintro group piece ⟨-, name, -, rfl⟩
    rw [testCall_eq]
    exact List.append_ne_nil_of_left_ne_nil (by decide) _

/-- A test macro has its only `(` behind `TEST`. -/
theorem marked_of_isTest {group : String} {piece : List Char} (hPiece : IsTest group piece) :
    Marked "TEST".toList '(' ')' piece := by
  obtain ⟨hGroup, name, hName, rfl⟩ := hPiece
  have hNoWord : ¬ Text.isWord '(' = true := by decide
  refine ⟨group.toList ++ (", ".toList ++ name.toList), ?_, ?_⟩
  · have hLead : "TEST(".toList = "TEST".toList ++ ['('] := by decide
    rw [testCall_eq, hLead]
    simp only [List.append_assoc, List.singleton_append]
  · intro hMem
    rcases List.mem_append.1 hMem with hMem | hMem
    · exact hNoWord (hGroup '(' hMem)
    · rcases List.mem_append.1 hMem with hComma | hMem
      · exact absurd hComma (by decide)
      · exact hNoWord (hName '(' hMem)

/-- **Test macros do not overlap.** -/
theorem testMacro_findsApart : Text.FindsApart testMacro :=
  testMacro_reads.findsApart (by decide) (by decide) marked_of_isTest

-- ---------------------------------------------------------------------------
-- What is reported
-- ---------------------------------------------------------------------------

variable {severity : Severity} {file : SourceFile}

/-- What is said about a wrong group. -/
def groupViolation (severity : Severity) (file : SourceFile) (m : Mention) : Violation :=
  Rule.testGroup.violation severity file m.line
    ("Bad or missing test group. Expected " ++ expectedGroup file.path ++ ".")

/-- The groups of the file that are not the expected one. -/
def wrongGroups (file : SourceFile) : List Mention :=
  (testGroups file.text).filter (·.name ≠ expectedGroup file.path)

theorem checkTestGroup_of_isTest (hTest : file.isTest = true) :
    Rule.checkTestGroup severity file = (wrongGroups file).map (groupViolation severity file) := by
  rw [Rule.checkTestGroup, if_pos hTest]
  rfl

theorem checkTestGroup_of_not_isTest (hNo : file.isTest = false) :
    Rule.checkTestGroup severity file = [] := by
  rw [Rule.checkTestGroup, hNo]
  rfl

/-- **The files that pass**: every test macro of every line has the group of
the path. -/
theorem checkTestGroup_eq_nil_iff (hTest : file.isTest = true) :
    Rule.checkTestGroup severity file = [] ↔
      ∀ l ∈ Text.lines file.text.toList, ∀ group name, IsWordText group → IsWordText name →
        testCall group name <:+: l → group = expectedGroup file.path := by
  rw [checkTestGroup_of_isTest hTest, List.map_eq_nil_iff, wrongGroups, List.filter_eq_nil_iff]
  constructor
  · intro hNone l hl group name hGroup hName hInfix
    have hPiece : HasPiece IsTest group l := ⟨_, ⟨hGroup, name, hName, rfl⟩, hInfix⟩
    have hMentioned : group ∈ (testGroups file.text).map (·.name) := by
      rw [testGroups, mem_map_name_mentions]
      exact ⟨l, hl, (testMacro_reads.mem_findAll testMacro_findsApart).2 hPiece⟩
    obtain ⟨m, hm, rfl⟩ := List.mem_map.1 hMentioned
    simpa using hNone m hm
  · intro hAll m hm
    have hMentioned : m.name ∈ (testGroups file.text).map (·.name) := List.mem_map_of_mem hm
    rw [testGroups, mem_map_name_mentions] at hMentioned
    obtain ⟨l, hl, hFound⟩ := hMentioned
    obtain ⟨piece, ⟨hGroup, name, hName, rfl⟩, hInfix⟩ :=
      (testMacro_reads.mem_findAll testMacro_findsApart).1 hFound
    simpa using hAll l hl m.name name hGroup hName hInfix

/--
**Test groups, exactly.** In a test each wrong group is reported once, in the
first line that contains a macro of that group, and the reports come in the
order of the places where these macros stand first. So a test passes if and
only if every macro of every line has the expected group; and what is no test
passes.
-/
theorem checkTestGroup_exact (severity : Severity) (file : SourceFile) :
    (file.isTest = true →
      ∃ wrong : List Mention,
        Rule.checkTestGroup severity file = wrong.map (groupViolation severity file) ∧
        (∀ group n, (⟨group, n⟩ : Mention) ∈ wrong ↔
          group ≠ expectedGroup file.path ∧
          (∃ l, Text.IsLine file.text n l ∧ HasPiece IsTest group l) ∧
          ∀ m < n, ∀ l, Text.IsLine file.text m l → ¬ HasPiece IsTest group l) ∧
        (wrong.map (·.name)).Nodup ∧
        (∃ column : Mention → Nat,
          (∀ m ∈ wrong, FirstPieceAt IsTest file.text m.name m.line (column m)) ∧
          wrong.Pairwise fun m m' => Before m.line (column m) m'.line (column m')) ∧
        (Rule.checkTestGroup severity file = [] ↔
          ∀ l ∈ Text.lines file.text.toList, ∀ group name, IsWordText group → IsWordText name →
            testCall group name <:+: l → group = expectedGroup file.path)) ∧
    (file.isTest = false → Rule.checkTestGroup severity file = []) := by
  refine ⟨fun hTest => ?_, checkTestGroup_of_not_isTest⟩
  obtain ⟨hListed, hOnce, column, hFirst, hOrder⟩ :=
    testMacro_reads.mentions_exact testMacro_findsApart file.text
  have hSub : (wrongGroups file).Sublist (testGroups file.text) := List.filter_sublist
  refine ⟨wrongGroups file, checkTestGroup_of_isTest hTest, ?_, ?_, ?_,
    checkTestGroup_eq_nil_iff hTest⟩
  · intro group n
    rw [wrongGroups, List.mem_filter, testGroups, hListed, decide_eq_true_eq]
    exact and_comm
  · exact hOnce.sublist (hSub.map _)
  · exact ⟨column, fun m hm => hFirst m (hSub.subset hm), hOrder.sublist hSub⟩

/-- A test with a macro that is only begun, an empty group, the group of its
path, and a wrong group that comes twice. -/
def nodeTest : SourceFile where
  path := ⟨"graph/node_test.cpp"⟩
  kind := .source
  isTest := true
  text := "TEST(TEST(Old, A) TEST(, b)\nTEST(GNodeTest, c)\nTEST(Old, d) TEST(New, e)"

/-- Three groups are wrong, so not every macro has the group of the path; and
nothing is reported where the file is no test. -/
theorem checkTestGroup_exact_nodeTest :
    nodeTest.isTest = true ∧
    Rule.checkTestGroup .error nodeTest =
      [⟨"Old", 1⟩, ⟨"", 1⟩, ⟨"New", 3⟩].map (groupViolation .error nodeTest) ∧
    (¬ ∀ l ∈ Text.lines nodeTest.text.toList, ∀ group name, IsWordText group → IsWordText name →
      testCall group name <:+: l → group = expectedGroup nodeTest.path) ∧
    Rule.checkTestGroup .error { nodeTest with isTest := false } = [] := by
  have hReports : Rule.checkTestGroup .error nodeTest =
      [⟨"Old", 1⟩, ⟨"", 1⟩, ⟨"New", 3⟩].map (groupViolation .error nodeTest) := by
    decide +kernel
  obtain ⟨wrong, -, -, -, -, hPasses⟩ := (checkTestGroup_exact .error nodeTest).1 rfl
  refine ⟨rfl, hReports, ?_, (checkTestGroup_exact .error { nodeTest with isTest := false }).2 rfl⟩
  rw [← hPasses, hReports]
  exact List.cons_ne_nil _ _

end SourceLint
