import SourceLint.Config.Basic
import SourceLint.Toml.Document

/-!
# Reading settings

Settings are the tables `analyzer` and `rules` of a document. Keys that mean
nothing are ignored, but a known key has a value of its kind. A rule keeps all
further keys of its table as options.

* `Config.ofDocument` — the settings that a document holds;
* `Config.parse` — the settings that a text holds.
-/

namespace SourceLint.Config

/-- Why a text holds no settings. -/
inductive Problem where
  /-- The text is no document. -/
  | malformed (p : Toml.Problem)
  /-- The value under the key is of the wrong kind. -/
  | wrongKind (key : String)
deriving DecidableEq, Repr

/-- A problem in words. -/
def Problem.message : Problem → String
  | .malformed p => p.message
  | .wrongKind key => "invalid type for " ++ key

-- ---------------------------------------------------------------------------
-- Values of a kind
-- ---------------------------------------------------------------------------

/-- A text. -/
def asString? : Toml.Value → Option String
  | .string s => some s
  | _ => none

/-- A truth value. -/
def asBool? : Toml.Value → Option Bool
  | .boolean b => some b
  | _ => none

/-- A list of texts. -/
def asStrings? : Toml.Value → Option (List String)
  | .array vs => vs.mapM asString?
  | _ => none

/-- Nothing: an empty table or array. -/
def isNothing : Toml.Value → Bool
  | .table entries => entries.isEmpty
  | .array elements => elements.isEmpty
  | _ => false

/-- A severity, by its name or as the one key of a table with nothing in it. -/
def asSeverity? : Toml.Value → Option Severity
  | .string s => Severity.ofName? s
  | .table [(key, v)] => if isNothing v then Severity.ofName? key else none
  | _ => none

/-- The key of a date that is written as a table. -/
def dateKey : String :=
  "$__toml_private_datetime"

/-- The entries of a table. A date counts as a table with its text as the one
entry. -/
def asEntries? : Toml.Value → Option (List (String × Toml.Value))
  | .table entries => some entries
  | .dateTime d => some [(dateKey, .string d.render)]
  | _ => none

/-- The date or time that a table stands for whose first key is `dateKey`: the
key's value spells it, and there is no other key. -/
def asDate? (v : Toml.Value) (rest : List (String × Toml.Value)) : Option Toml.Value :=
  match v, rest with
  | .string s, [] => (Toml.DateTime.read? s.toList).map .dateTime
  | _, _ => none

mutual

/-- The value of an option. A table whose first key is `dateKey` is a date or
time. -/
def asOption? : Toml.Value → Option Toml.Value
  | .array vs => (asElements? vs).map .array
  | .table [] => some (.table [])
  | .table ((key, v) :: rest) =>
    if key = dateKey then asDate? v rest
    else do
      let v ← asOption? v
      let rest ← asOptions? rest
      some (.table ((key, v) :: rest))
  | v => some v

/-- The values of a list. -/
def asElements? : List Toml.Value → Option (List Toml.Value)
  | [] => some []
  | v :: vs => do
    let v ← asOption? v
    let vs ← asElements? vs
    some (v :: vs)

/-- The options of a table. -/
def asOptions? : List (String × Toml.Value) → Option (List (String × Toml.Value))
  | [] => some []
  | (key, v) :: rest => do
    let v ← asOption? v
    let rest ← asOptions? rest
    some ((key, v) :: rest)

end

-- ---------------------------------------------------------------------------
-- The settings
-- ---------------------------------------------------------------------------

/-- The value converted, or the default if there is none; a value that does
not convert is of the wrong kind. -/
def convert {α : Type} (key : String) (f : Toml.Value → Option α) (default : α) :
    Option Toml.Value → Except Problem α
  | none => .ok default
  | some v => match f v with
    | some a => .ok a
    | none => .error (.wrongKind key)

/-- The scope whose four settings are given, each of them optional. -/
def scopeOf (get : String → Nat → Option Toml.Value) : Except Problem Scope := do
  let standard : Scope := {}
  let sources ← convert "sources" (fun v => (asStrings? v).map (·.map Path.mk)) standard.sources
    (get "sources" 0)
  let exclude ← convert "exclude" asStrings? standard.exclude (get "exclude" 1)
  let headerExtensions ← convert "header_extensions" asStrings? standard.headerExtensions
    (get "header_extensions" 2)
  let sourceExtensions ← convert "source_extensions" asStrings? standard.sourceExtensions
    (get "source_extensions" 3)
  .ok { sources, exclude, headerExtensions, sourceExtensions }

/-- The scope, as a table of its settings or as an array of them in their
order. -/
def asScope : Toml.Value → Except Problem Scope
  | .array vs => scopeOf fun _ n => vs[n]?
  | v => match asEntries? v with
    | some entries => scopeOf fun key _ => entries.lookup key
    | none => .error (.wrongKind "analyzer")

/-- The settings of a rule. -/
def asRuleSettings (name : String) (v : Toml.Value) : Except Problem RuleSettings :=
  match asEntries? v with
  | none => .error (.wrongKind name)
  | some entries => do
    let enabled ← convert "enabled" (fun v => (asBool? v).map some) none (entries.lookup "enabled")
    let severity ← convert "severity" (fun v => (asSeverity? v).map some) none
      (entries.lookup "severity")
    let further := entries.filter fun (key, _) => key ≠ "enabled" ∧ key ≠ "severity"
    match asOptions? further with
    | some options => .ok { enabled, severity, options }
    | none => .error (.wrongKind name)

/-- The settings of all rules. -/
def asRules : Toml.Value → Except Problem (List (String × RuleSettings))
  | .table entries => entries.mapM fun (name, v) => do .ok (name, ← asRuleSettings name v)
  | _ => .error (.wrongKind "rules")

/-- The settings that a document holds. -/
def ofDocument (document : Toml.Value) : Except Problem Config := do
  let scope ← match document.get? "analyzer" with
    | none => .ok {}
    | some v => asScope v
  let rules ← match document.get? "rules" with
    | none => .ok []
    | some v => asRules v
  .ok { scope, rules }

/-- The settings that a text holds. -/
def parse (text : String) : Except Problem Config :=
  match Toml.parse text with
  | .ok document => ofDocument document
  | .error p => .error (.malformed p)

end SourceLint.Config
