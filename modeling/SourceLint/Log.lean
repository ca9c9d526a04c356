/-!
# Logging

A run can tell what it does. Each remark has a level, and a threshold decides
which remarks are shown. Names that stand in a remark come from outside, so
the controls that a terminal acts on are spelled out.

* `Log.Threshold.ofSetting` — the threshold that an environment setting asks
  for;
* `Log.Remark.render` — a remark as it is shown.
-/

namespace SourceLint.Log

/-- How important a remark is, the most important level first. -/
inductive Level where
  | error
  | warn
  | info
  | debug
  | trace
deriving DecidableEq, Repr

namespace Level

/-- The name of a level. -/
def name : Level → String
  | .error => "ERROR"
  | .warn => "WARN"
  | .info => "INFO"
  | .debug => "DEBUG"
  | .trace => "TRACE"

/-- The place of a level, counted from the most important one. -/
def rank : Level → Nat
  | .error => 1
  | .warn => 2
  | .info => 3
  | .debug => 4
  | .trace => 5

/-- All levels. -/
def all : List Level :=
  [error, warn, info, debug, trace]

end Level

/-- The least important level that is still shown; without one nothing is. -/
abbrev Threshold := Option Level

namespace Threshold

/-- The threshold where nothing asks for another one. -/
def standard : Threshold :=
  some .warn

/-- The name in upper case. -/
def upper (s : String) : String :=
  String.ofList (s.toList.map Char.toUpper)

/-- The threshold that a setting asks for: a level by its name in any case or
by its place, or `off`. An empty setting shows errors only, and one that means
nothing counts as not made. -/
def ofSetting (setting : Option String) : Threshold :=
  match setting with
  | none => standard
  | some s =>
    if s = "" then some .error
    else if upper s = "OFF" ∨ s = "0" then none
    else match Level.all.find? fun l => l.name = upper s ∨ toString l.rank = s with
      | some l => some l
      | none => standard

/-- Remarks of the level are shown. -/
def shows (t : Threshold) (l : Level) : Bool :=
  t.any (l.rank ≤ ·.rank)

end Threshold

/-- A remark. -/
structure Remark where
  level : Level
  text : String
deriving DecidableEq, Repr

/-- The controls of ASCII that a terminal acts on: bell, backspace, form feed,
escape and delete. -/
def terminalControls : List Char :=
  ['\x07', '\x08', '\x0c', '\x1b', '\x7f']

/-- The spelling of a character in a remark. -/
def shownChar (c : Char) : List Char :=
  if c ∈ terminalControls then
    '\\' :: 'x' :: Nat.toDigits 16 (c.toNat / 16) ++ Nat.toDigits 16 (c.toNat % 16)
  else if 0x80 ≤ c.toNat ∧ c.toNat ≤ 0x9f then
    '\\' :: 'u' :: '{' :: Nat.toDigits 16 c.toNat ++ ['}']
  else [c]

/-- A remark with its level. -/
def Remark.render (r : Remark) : String :=
  r.level.name ++ " " ++ String.ofList (r.text.toList.flatMap shownChar)

end SourceLint.Log
