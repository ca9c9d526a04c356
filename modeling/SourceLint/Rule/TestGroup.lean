import SourceLint.Extract.Mention
import SourceLint.Rule.Basic
import SourceLint.Text.Word

/-!
# Test groups

The `TEST(Group, Name)` macros of a test file use the group of its path: the
first letters of its directories and its name in capitalised words, so
`graph/search/shortest_path_test.cpp` has the group `GSShortestPathTest`.

* `expectedGroup` — the group of a path;
* `testGroups` — the groups that a text uses;
* `Rule.checkTestGroup` — the rule.
-/

namespace SourceLint

-- ---------------------------------------------------------------------------
-- The group of a path
-- ---------------------------------------------------------------------------

/-- A name with `_` for all but ASCII letters and digits. -/
def plainSpelling (name : List Char) : List Char :=
  name.map fun c => if c.isAlphanum then c else '_'

/-- The parts between the `_`, the empty ones included. -/
def splitUnderscore : List Char → List (List Char)
  | [] => [[]]
  | c :: cs => match splitUnderscore cs with
    | [] => [[c]]
    | w :: ws => if c = '_' then [] :: w :: ws else (c :: w) :: ws

/-- A word with its first letter in upper case and the others in lower case. -/
def capitalise : List Char → List Char
  | [] => []
  | c :: cs => c.toUpper :: cs.map Char.toLower

/-- The words between the `_`, capitalised and put together. -/
def pascalCase (cs : List Char) : List Char :=
  (splitUnderscore cs).flatMap capitalise

/-- What a path gives to its group: the first letter of each directory, then
the file name without its extension. -/
def groupParts (p : Path) : List (List Char) :=
  p.directoryNames.filterMap (fun d => (plainSpelling d.toList).head?.map ([·]))
    ++ (p.fileName?.map fun name => plainSpelling (Path.stem name.toList)).toList

/-- The group of a path. -/
def expectedGroup (p : Path) : String :=
  String.ofList (pascalCase (['_'].intercalate (groupParts p)))

-- ---------------------------------------------------------------------------
-- The groups of a text
-- ---------------------------------------------------------------------------

/-- A test macro; group and name may be empty. The find is the group. -/
def testMacro : Text.Recogniser String := fun cs =>
  match Text.dropStart? "TEST(".toList cs with
  | none => none
  | some rest =>
    let group := rest.takeWhile Text.isWord
    match Text.dropStart? ", ".toList (rest.dropWhile Text.isWord) with
    | none => none
    | some rest =>
      let name := rest.takeWhile Text.isWord
      match rest.dropWhile Text.isWord with
      | ')' :: _ => some (String.ofList group, "TEST(, )".length + group.length + name.length)
      | _ => none

/-- The groups that the text uses, each with its first line. -/
def testGroups (text : String) : List Mention :=
  mentions testMacro text

/-- The rule on test groups: each wrong group counts once. -/
def Rule.checkTestGroup (severity : Severity) (file : SourceFile) : List Violation :=
  let expected := expectedGroup file.path
  if file.isTest then
    ((testGroups file.text).filter (·.name ≠ expected)).map fun m =>
      Rule.testGroup.violation severity file m.line
        ("Bad or missing test group. Expected " ++ expected ++ ".")
  else []

end SourceLint
