import SourceLint.Rule.HeaderGuard
import SourceLint.Rule.LineLength
import SourceLint.Rule.SystemIncludes
import SourceLint.Rule.TestGroup

/-!
# Checking a file

* `Rule.check` — what one rule finds in a file;
* `Rule.inOrder` — the rules in the order in which a file is checked.
-/

namespace SourceLint.Rule

/-- What the rules need to know beside the file. -/
structure Context where
  knowledge : Knowledge
  maxLength : Nat
  severity : Rule → Severity

/-- What the rule finds in the file. -/
def check (context : Context) (file : SourceFile) (r : Rule) : List Violation :=
  match r with
  | .headerGuard => checkHeaderGuard (context.severity r) file
  | .testGroup => checkTestGroup (context.severity r) file
  | .systemIncludes => checkSystemIncludes context.knowledge (context.severity r) file
  | .lineLength => checkLineLength context.maxLength (context.severity r) file

/-- The rules in the order in which a file is checked. -/
def inOrder : List Rule :=
  [headerGuard, testGroup, systemIncludes, lineLength]

end SourceLint.Rule
