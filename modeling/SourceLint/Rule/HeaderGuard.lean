import SourceLint.Rule.Basic
import SourceLint.Text.Blank
import SourceLint.Text.Lines
import SourceLint.Text.Uppercase

/-!
# Header guards

A header is wrapped in `#ifndef`, `#define` and `#endif` lines that carry the
guard of its path: `graph/node-list.h` has the guard `GRAPH_NODE_LIST_H`.
Blank text around the header and empty lines do not matter.

* `expectedGuard` — the guard of a path;
* `hasGuard` — a text is wrapped in a guard;
* `Rule.checkHeaderGuard` — the rule.
-/

namespace SourceLint

/-- A letter or digit of a guard; all else becomes `_`. -/
def guardChar (c : Char) : Char :=
  if c.isUpper || c.isDigit then c else '_'

/-- A name as it is spelled in a guard: in upper case, with `_` for all but
the letters `A` to `Z` and the digits. -/
def guardSpelling (name : String) : List Char :=
  (Text.uppercaseAll name.toList).map guardChar

/-- The guard of a path with the given names. -/
def expectedGuard (names : List String) : String :=
  String.ofList (['_'].intercalate (names.map guardSpelling))

/-- The text starts with the two opening lines of the guard and ends in the
closing one, blanks around it and empty lines apart. -/
def hasGuard (text : String) (guard : String) : Bool :=
  let lines := (Text.lines (Text.trim text.toList)).filter (· ≠ [])
  lines[0]? = some ("#ifndef " ++ guard).toList
    && lines[1]? = some ("#define " ++ guard).toList
    && lines.getLast? = some ("#endif //" ++ guard).toList

/-- The rule on header guards. -/
def Rule.checkHeaderGuard (severity : Severity) (file : SourceFile) : List Violation :=
  let guard := expectedGuard file.path.names
  if file.kind = .header ∧ ¬ hasGuard file.text guard then
    [Rule.headerGuard.violation severity file 1
      ("Bad or missing guard. Expected " ++ guard ++ ".")]
  else []

end SourceLint
