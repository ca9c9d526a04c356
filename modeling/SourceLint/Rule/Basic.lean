import SourceLint.Report
import SourceLint.SourceFile

/-!
# The rules

The conventions that can be checked, with the names under which settings and
reports know them.

* `Rule.all` — the rules in the order in which they are listed;
* `Rule.violation` — a finding of a rule in a file.
-/

namespace SourceLint

/-- A convention. -/
inductive Rule where
  | systemIncludes
  | headerGuard
  | testGroup
  | lineLength
deriving DecidableEq, Repr

namespace Rule

/-- The name of a rule in settings and reports. -/
def name : Rule → String
  | .systemIncludes => "system-includes"
  | .headerGuard => "header-guard"
  | .testGroup => "test-group"
  | .lineLength => "line-length"

/-- What a rule asks for. -/
def description : Rule → String
  | .systemIncludes =>
    "#include <...> set must equal the headers required by std::/boost:: usages"
  | .headerGuard => "headers must be guarded by #ifndef/#define/#endif derived from their path"
  | .testGroup => "TEST(Group, Name) in *_test.cpp must use the group derived from the path"
  | .lineLength => "lines must not exceed the configured length"

/-- The rules in the order in which they are listed. -/
def all : List Rule :=
  [systemIncludes, headerGuard, testGroup, lineLength]

/-- The rule of that name. -/
def ofName? (name : String) : Option Rule :=
  all.find? (·.name = name)

/-- What the rule found in a line of the file. -/
def violation (r : Rule) (severity : Severity) (file : SourceFile) (line : Nat)
    (message : String) : Violation :=
  ⟨r.name, severity, ⟨file.path, line⟩, message⟩

end Rule

end SourceLint
