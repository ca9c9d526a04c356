/-!
# Double precision numbers

A double is its 64-bit pattern. A decimal is read as the double nearest to it,
a tie going to the even one, in exact arithmetic on natural numbers.

* `Binary64.ofDecimal` — the double nearest to `m · 10 ^ e`.
-/

namespace SourceLint

/-- A double precision number, by its bit pattern. -/
structure Binary64 where
  bits : UInt64
deriving DecidableEq, Repr

namespace Binary64

/-- The unit of the exponent field, which is also the leading bit of the
significand of a normal number. -/
def exponentUnit : Nat :=
  0x10000000000000

/-- Positive infinity. -/
def infinity : Binary64 :=
  ⟨0x7FF0000000000000⟩

/-- Not a number. -/
def nan : Binary64 :=
  ⟨0x7FF8000000000000⟩

/-- The number with the other sign. -/
def neg (x : Binary64) : Binary64 :=
  ⟨x.bits ^^^ 0x8000000000000000⟩

/-- The number is no number at all. -/
def isNan (x : Binary64) : Bool :=
  infinity.bits < (x.bits &&& 0x7FFFFFFFFFFFFFFF)

/-- The natural number nearest to `num / den`, a tie going to the even one. -/
def roundToEven (num den : Nat) : Nat :=
  let q := num / den
  let r := num % den
  if 2 * r < den ∨ (2 * r = den ∧ q % 2 = 0) then q else q + 1

/-- The greatest `k` with `2 ^ k ≤ num / den`, for positive `num` and `den`. -/
def log2Ratio (num den : Nat) : Int :=
  let k : Int := (num.log2 : Int) - den.log2
  if den <<< k.toNat ≤ num <<< (-k).toNat then k else k - 1

/-- The double nearest to `num / den`, for positive `num` and `den`. The leading
bit of a normal significand counts into the exponent field, so that one sum
gives the pattern of normal and subnormal numbers alike. -/
def ofRatio (num den : Nat) : Binary64 :=
  -- the unit of the significand is `2 ^ unit`
  let unit : Int := max (log2Ratio num den - 52) (-1074)
  let significand := roundToEven (num <<< (-unit).toNat) (den <<< unit.toNat)
  let pattern := (unit + 1074).toNat * exponentUnit + significand
  if infinity.bits.toNat ≤ pattern then infinity else ⟨pattern.toUInt64⟩

/-- The double nearest to `m · 10 ^ e`. Beyond any double it is infinity or
zero, without computing the power. -/
def ofDecimal (m : Nat) (e : Int) : Binary64 :=
  let magnitude : Int := (Nat.toDigits 10 m).length + e
  if m = 0 ∨ magnitude < -400 then ⟨0⟩
  else if 400 < magnitude then infinity
  else ofRatio (m * Nat.pow 10 e.toNat) (Nat.pow 10 (-e).toNat)

end Binary64

end SourceLint
