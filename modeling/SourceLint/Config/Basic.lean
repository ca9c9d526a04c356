import SourceLint.Path.Basic
import SourceLint.Rule.LineLength
import SourceLint.Toml.Value

/-!
# Settings

What a run looks at, and how each rule is applied. All settings have defaults,
and a rule without settings is enabled and reports errors.

* `Scope` — the files to look at;
* `RuleSettings` — what is set for one rule;
* `Config` — all settings; `Config.isEnabled`, `Config.severityOf` and
  `Config.maxLength` are what they come to.
-/

namespace SourceLint

/-- Which files are looked at. -/
structure Scope where
  /-- The directories to search, relative to the checked root. -/
  sources : List Path := [⟨"."⟩]
  /-- The patterns of files to leave out. -/
  exclude : List String := []
  headerExtensions : List String := ["h"]
  sourceExtensions : List String := ["cpp"]
deriving DecidableEq

/-- What is set for one rule. -/
structure RuleSettings where
  enabled : Option Bool := none
  severity : Option Severity := none
  options : List (String × Toml.Value) := []

/-- The settings of a run. -/
structure Config where
  scope : Scope := {}
  rules : List (String × RuleSettings) := []

namespace RuleSettings

/-- The option of that name as a natural number; an option of another kind or
sign counts as not set. -/
def natOption (s : RuleSettings) (key : String) (default : Nat) : Nat :=
  match s.options.lookup key with
  | some (.integer n) => if 0 ≤ n then n.toNat else default
  | _ => default

end RuleSettings

namespace Config

/-- What is set for the rule of that name. -/
def rule? (c : Config) (name : String) : Option RuleSettings :=
  c.rules.lookup name

/-- A rule is enabled unless it is switched off. -/
def isEnabled (c : Config) (name : String) : Bool :=
  ((c.rule? name).bind (·.enabled)).getD true

/-- The severity that is set for the rule of that name. -/
def severity? (c : Config) (name : String) : Option Severity :=
  (c.rule? name).bind (·.severity)

/-- Rules report errors unless another severity is set. -/
def severityOf (c : Config) (r : Rule) : Severity :=
  (c.severity? r.name).getD .error

/-- The greatest length of a line. -/
def maxLength (c : Config) : Nat :=
  match c.rule? Rule.lineLength.name with
  | some s => s.natOption "max" defaultMaxLength
  | none => defaultMaxLength

end Config

end SourceLint
