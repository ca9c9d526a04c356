/-!
# Severities

How grave a violation is. Only errors make a run fail.
-/

namespace SourceLint

/-- How grave a violation is, from the least to the most. -/
inductive Severity where
  | info
  | warning
  | error
deriving DecidableEq, Ord, Repr

namespace Severity

/-- The name of a severity in reports and settings. -/
def name : Severity → String
  | .info => "info"
  | .warning => "warning"
  | .error => "error"

/-- The severity of that name, in exactly that spelling. -/
def ofName? (name : String) : Option Severity :=
  [info, warning, error].find? (·.name = name)

end Severity

end SourceLint
