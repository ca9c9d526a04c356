import SourceLint.Toml.Value

/-!
# Numbers

Integers are signed with 64 bits, in decimal or, without a sign, in base 16, 8
or 2. A float has a fraction or an exponent, or is spelled `inf` or `nan`.
Between two digits there may be an underscore.

* `readInteger?`, `readFloat?` — the number that a token spells.
-/

namespace SourceLint.Toml

/-- The digits of a run in which an underscore may stand between two of them,
without the underscores. -/
def digitRun? (isDigit : Char → Bool) : List Char → Option (List Char)
  | [] => none
  | [c] => if isDigit c then some [c] else none
  | c :: '_' :: cs => if isDigit c then (digitRun? isDigit cs).map (c :: ·) else none
  | c :: d :: cs => if isDigit c then (digitRun? isDigit (d :: cs)).map (c :: ·) else none

/-- A digit in base 16. -/
def isHexDigit (c : Char) : Bool :=
  c.isDigit || ('a' ≤ c && c ≤ 'f') || ('A' ≤ c && c ≤ 'F')

/-- The value of a digit in any base up to 16. -/
def digitValue (c : Char) : Nat :=
  if c.isDigit then c.toNat - '0'.toNat
  else if 'a' ≤ c then c.toNat - 'a'.toNat + 10
  else c.toNat - 'A'.toNat + 10

/-- The number that a run of digits spells in the given base. -/
def valueInBase (base : Nat) (cs : List Char) : Nat :=
  cs.foldl (fun n c => base * n + digitValue c) 0

/-- A decimal run without a superfluous zero in front. -/
def decimalRun? (cs : List Char) : Option (List Char) :=
  if cs.head? = some '0' ∧ cs ≠ ['0'] then none else digitRun? Char.isDigit cs

/-- The sign in front of a token, and what is behind it. -/
def splitSign : List Char → Bool × List Char
  | '-' :: cs => (true, cs)
  | '+' :: cs => (false, cs)
  | cs => (false, cs)

/-- The integer, if it has 64 bits. -/
def inRange? (n : Int) : Option Int :=
  if -9223372036854775808 ≤ n ∧ n ≤ 9223372036854775807 then some n else none

/-- The integer that the whole token spells. -/
def readInteger? (token : List Char) : Option Int :=
  match token with
  | '0' :: 'x' :: cs => (digitRun? isHexDigit cs).bind fun ds => inRange? (valueInBase 16 ds)
  | '0' :: 'o' :: cs =>
    (digitRun? (fun c => '0' ≤ c && c ≤ '7') cs).bind fun ds => inRange? (valueInBase 8 ds)
  | '0' :: 'b' :: cs =>
    (digitRun? (fun c => c == '0' || c == '1') cs).bind fun ds => inRange? (valueInBase 2 ds)
  | _ =>
    let (negative, cs) := splitSign token
    (decimalRun? cs).bind fun ds =>
      let n : Int := valueInBase 10 ds
      inRange? (if negative then -n else n)

/-- A letter that starts an exponent. -/
def isExponentMark (c : Char) : Bool :=
  c == 'e' || c == 'E'

/-- The fraction's digits, if there is a fraction, and what is behind it. -/
def splitFraction : List Char → Option (Option (List Char)) × List Char
  | '.' :: cs =>
    (some (digitRun? Char.isDigit (cs.takeWhile (!isExponentMark ·))),
      cs.dropWhile (!isExponentMark ·))
  | cs => (none, cs)

/-- The exponent that the rest of a token spells. -/
def readExponent? : List Char → Option Int
  | mark :: cs =>
    if isExponentMark mark then
      let (negative, cs) := splitSign cs
      (digitRun? Char.isDigit cs).map fun ds =>
        let n : Int := valueInBase 10 ds
        if negative then -n else n
    else none
  | [] => some 0

/-- The size of the float that a token without its sign spells; there is a
fraction or an exponent. -/
def readMagnitude? (cs : List Char) : Option Binary64 := do
  let isWhole : Char → Bool := fun c => c != '.' && !isExponentMark c
  let whole ← decimalRun? (cs.takeWhile isWhole)
  let rest := cs.dropWhile isWhole
  if rest.isEmpty then none
  else
    let (fraction, rest) := splitFraction rest
    let fraction ← fraction.getD (some [])
    let exponent ← readExponent? rest
    some (Binary64.ofDecimal (valueInBase 10 (whole ++ fraction)) (exponent - fraction.length))

/-- The float that the whole token spells. A positive number beyond the
greatest double is refused. -/
def readFloat? (token : List Char) : Option Binary64 :=
  let (negative, cs) := splitSign token
  let sign : Binary64 → Binary64 := fun x => if negative then x.neg else x
  if cs = "inf".toList then some (sign .infinity)
  else if cs = "nan".toList then some (sign .nan)
  else (readMagnitude? cs).bind fun x =>
    if sign x = .infinity then none else some (sign x)

end SourceLint.Toml
