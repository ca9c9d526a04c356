import SourceLint.Path.Basic
import SourceLint.Severity

/-!
# Reports

What a run found: the violations in the order in which they are shown, and the
number of files looked at. A run fails if it found an error.

* `Violation`, `Violation.render` — one finding, and how it is shown;
* `Report`, `Report.outcome` — the findings of a run, and whether it failed;
* `Report.summary` — the line that counts them.
-/

namespace SourceLint

/-- Where a violation was found: a file relative to the checked root and a
line counted from 1. -/
structure Location where
  file : Path
  line : Nat
deriving DecidableEq, Repr

/-- A broken convention. -/
structure Violation where
  rule : String
  severity : Severity
  location : Location
  message : String
deriving DecidableEq, Repr

/-- A violation as it is shown. -/
def Violation.render (v : Violation) : String :=
  v.location.file.text ++ ": " ++ v.message

/-- How a check or a whole run ended. -/
inductive Outcome where
  | success
  | fail
deriving DecidableEq, Repr

/-- The word for an outcome. -/
def Outcome.name : Outcome → String
  | .success => "success"
  | .fail => "fail"

/-- What a run found. -/
structure Report where
  violations : List Violation
  filesChecked : Nat
deriving DecidableEq, Repr

namespace Report

/-- The number of violations of one severity. -/
def count (r : Report) (s : Severity) : Nat :=
  r.violations.countP (·.severity = s)

/-- Some violation is an error. -/
def hasErrors (r : Report) : Bool :=
  r.violations.any (·.severity = .error)

/-- A run fails if it found an error. -/
def outcome (r : Report) : Outcome :=
  if r.hasErrors then .fail else .success

/-- The last line of a report. -/
def summary (r : Report) : String :=
  toString (r.count .error) ++ " error(s), " ++ toString (r.count .warning) ++ " warning(s), "
    ++ toString (r.count .info) ++ " info(s) in " ++ toString r.filesChecked ++ " file(s)"

end Report

end SourceLint
