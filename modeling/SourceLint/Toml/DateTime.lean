/-!
# Dates and times

A date, a time of day, or both, with or without a distance to universal time.

* `DateTime.read?` — the date or time that a token spells;
* `DateTime.render` — its one normal spelling.
-/

namespace SourceLint.Toml

/-- A day of the calendar. -/
structure Date where
  year : Nat
  month : Nat
  day : Nat
deriving DecidableEq, Repr

/-- A time of day. -/
structure Time where
  hour : Nat
  minute : Nat
  second : Nat
  nanosecond : Nat
deriving DecidableEq, Repr

/-- The distance to universal time. -/
inductive Offset where
  | utc
  | minutes (east : Int)
deriving DecidableEq, Repr

/-- A date, a time, or both. -/
inductive DateTime where
  | date (d : Date)
  | time (t : Time)
  | dateTime (d : Date) (t : Time) (offset : Option Offset)
deriving DecidableEq, Repr

-- ---------------------------------------------------------------------------
-- Reading
-- ---------------------------------------------------------------------------

/-- The number that a run of digits spells. -/
def decimalValue (cs : List Char) : Nat :=
  cs.foldl (fun n c => 10 * n + (c.toNat - '0'.toNat)) 0

/-- Exactly `n` digits at the beginning, as a number. -/
def takeDigits? (n : Nat) (cs : List Char) : Option (Nat × List Char) :=
  let ds := cs.take n
  if ds.length = n ∧ ds.all Char.isDigit then some (decimalValue ds, cs.drop n) else none

/-- A number of two digits within the given bounds. -/
def takePair? (low high : Nat) (cs : List Char) : Option (Nat × List Char) :=
  match takeDigits? 2 cs with
  | some (n, rest) => if low ≤ n ∧ n ≤ high then some (n, rest) else none
  | none => none

/-- The given character and what is behind it. -/
def takeChar? (c : Char) : List Char → Option (List Char)
  | d :: rest => if c = d then some rest else none
  | [] => none

/-- The number of days of a month. -/
def daysOfMonth (year month : Nat) : Nat :=
  if month = 2 then
    if year % 4 = 0 ∧ (year % 100 ≠ 0 ∨ year % 400 = 0) then 29 else 28
  else if month = 4 ∨ month = 6 ∨ month = 9 ∨ month = 11 then 30
  else 31

/-- A date at the beginning of the text. -/
def takeDate? (cs : List Char) : Option (Date × List Char) := do
  let (year, cs) ← takeDigits? 4 cs
  let cs ← takeChar? '-' cs
  let (month, cs) ← takePair? 1 12 cs
  let cs ← takeChar? '-' cs
  let (day, cs) ← takePair? 1 (daysOfMonth year month) cs
  some (⟨year, month, day⟩, cs)

/-- A fraction of a second, in nanoseconds; digits beyond the ninth are
dropped. -/
def takeFraction? : List Char → Option (Nat × List Char)
  | '.' :: cs => match cs.takeWhile Char.isDigit with
    | [] => none
    | ds =>
      let nine := (ds ++ List.replicate 9 '0').take 9
      some (decimalValue nine, cs.dropWhile Char.isDigit)
  | cs => some (0, cs)

/-- A time of day at the beginning of the text; a minute may have 61
seconds. -/
def takeTime? (cs : List Char) : Option (Time × List Char) := do
  let (hour, cs) ← takePair? 0 23 cs
  let cs ← takeChar? ':' cs
  let (minute, cs) ← takePair? 0 59 cs
  let cs ← takeChar? ':' cs
  let (second, cs) ← takePair? 0 60 cs
  let (nanosecond, cs) ← takeFraction? cs
  some (⟨hour, minute, second, nanosecond⟩, cs)

/-- Hours and minutes of a distance to universal time, in minutes. -/
def readDistance? (cs : List Char) : Option Nat := do
  let (hours, cs) ← takePair? 0 23 cs
  let cs ← takeChar? ':' cs
  let (minutes, cs) ← takePair? 0 59 cs
  if cs.isEmpty then some (60 * hours + minutes) else none

/-- What may stand behind date and time: nothing or an offset. -/
def readOffset? : List Char → Option (Option Offset)
  | [] => some none
  | ['Z'] => some (some .utc)
  | ['z'] => some (some .utc)
  | '+' :: cs => (readDistance? cs).map fun n => some (.minutes n)
  | '-' :: cs => (readDistance? cs).map fun n => some (.minutes (-n))
  | _ => none

/-- The letters that may stand between date and time. -/
def isTimeMark (c : Char) : Bool :=
  c == 'T' || c == 't' || c == ' '

namespace DateTime

/-- The date or time that the whole token spells. -/
def read? (token : List Char) : Option DateTime :=
  match takeDate? token with
  | some (d, []) => some (.date d)
  | some (d, mark :: rest) =>
    if isTimeMark mark then do
      let (t, rest) ← takeTime? rest
      let offset ← readOffset? rest
      some (.dateTime d t offset)
    else none
  | none => match takeTime? token with
    | some (t, []) => some (.time t)
    | _ => none

end DateTime

-- ---------------------------------------------------------------------------
-- Writing
-- ---------------------------------------------------------------------------

/-- The decimal digits of `n`, with zeros in front up to the given width. -/
def padded (width n : Nat) : List Char :=
  let ds := Nat.toDigits 10 n
  List.replicate (width - ds.length) '0' ++ ds

/-- The list without the zeros at its end. -/
def dropZerosEnd (cs : List Char) : List Char :=
  (cs.reverse.dropWhile (· == '0')).reverse

/-- Year, month and day. -/
def Date.render (d : Date) : List Char :=
  padded 4 d.year ++ '-' :: padded 2 d.month ++ '-' :: padded 2 d.day

/-- Hour, minute and second, and the fraction if there is one. -/
def Time.render (t : Time) : List Char :=
  padded 2 t.hour ++ ':' :: padded 2 t.minute ++ ':' :: padded 2 t.second
    ++ if t.nanosecond = 0 then [] else '.' :: dropZerosEnd (padded 9 t.nanosecond)

/-- `Z`, or the sign with hours and minutes. -/
def Offset.render : Offset → List Char
  | .utc => ['Z']
  | .minutes m =>
    (if m < 0 then '-' else '+')
      :: (padded 2 (m.natAbs / 60) ++ ':' :: padded 2 (m.natAbs % 60))

/-- The normal spelling of a date or time. -/
def DateTime.render : DateTime → String
  | .date d => String.ofList d.render
  | .time t => String.ofList t.render
  | .dateTime d t offset =>
    String.ofList (d.render ++ 'T' :: t.render ++ (offset.map Offset.render).getD [])

end SourceLint.Toml
