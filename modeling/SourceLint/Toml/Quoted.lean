import SourceLint.Toml.Number

/-!
# Quoted texts

Four ways to write a text: between double quotes with escapes, between single
quotes as it is, and both with three quotes over several lines. Each reader
starts behind the opening quotes and ends behind the closing ones.

* `readBasic`, `readLiteral` — on one line;
* `readBasicLines`, `readLiteralLines` — over several lines.
-/

namespace SourceLint.Toml

/-- A character that may stand in a comment or a quoted text as it is: a tab
or no control character. -/
def isTextChar (c : Char) : Bool :=
  c == '\t' || (0x20 ≤ c.toNat && c.toNat != 0x7F)

/-- A space or a tab. -/
def isSpace (c : Char) : Bool :=
  c == ' ' || c == '\t'

/-- What a one-letter escape stands for. -/
def simpleEscape? : Char → Option Char
  | 'b' => some '\x08'
  | 't' => some '\t'
  | 'n' => some '\n'
  | 'f' => some '\x0C'
  | 'r' => some '\r'
  | '"' => some '"'
  | '\\' => some '\\'
  | _ => none

/-- The character with the code point that the digits spell in base 16. -/
def codePoint? (digits : List Char) : Option Char :=
  let n := valueInBase 16 digits
  if digits.all isHexDigit ∧ n.isValidChar then some (Char.ofNat n) else none

/-- A text that was quoted, and what is behind it. -/
abbrev Quoted := Except Problem (List Char × List Char)

/-- Puts a character in front of what was read. -/
def andThen (c : Char) : Quoted → Quoted
  | .ok (cs, rest) => .ok (c :: cs, rest)
  | .error p => .error p

/-- Puts the character of an escape in front of what was read. -/
def escapeThen : Option Char → Quoted → Quoted
  | some c, r => andThen c r
  | none, _ => .error .badEscape

/-- The text up to the closing double quote. -/
def readBasic : List Char → Quoted
  | [] => .error .unclosed
  | '"' :: cs => .ok ([], cs)
  | '\\' :: 'u' :: a :: b :: c :: d :: cs => escapeThen (codePoint? [a, b, c, d]) (readBasic cs)
  | '\\' :: 'U' :: a :: b :: c :: d :: e :: f :: g :: h :: cs =>
    escapeThen (codePoint? [a, b, c, d, e, f, g, h]) (readBasic cs)
  | '\\' :: c :: cs => escapeThen (simpleEscape? c) (readBasic cs)
  | c :: cs =>
    if isTextChar c ∧ c ≠ '\\' then andThen c (readBasic cs) else .error (.badCharacter c)

/-- The text up to the closing single quote. -/
def readLiteral : List Char → Quoted
  | [] => .error .unclosed
  | '\'' :: cs => .ok ([], cs)
  | c :: cs => if isTextChar c then andThen c (readLiteral cs) else .error (.badCharacter c)

/-- The text behind a line break, if there is one here. -/
def takeBreak? : List Char → Option (List Char)
  | '\n' :: cs => some cs
  | '\r' :: '\n' :: cs => some cs
  | _ => none

/-- The text begins, after spaces and tabs, with a line break. -/
def endsLine (cs : List Char) : Bool :=
  (takeBreak? (cs.dropWhile isSpace)).isSome

/-- The text up to three closing double quotes, of which one or two more may
stand in front. A backslash at the end of a line joins it to the next text;
`joining` says that this is going on. -/
def readBasicLinesFrom : (joining : Bool) → List Char → Quoted
  | _, [] => .error .unclosed
  | _, '"' :: '"' :: '"' :: '"' :: '"' :: cs => .ok (['"', '"'], cs)
  | _, '"' :: '"' :: '"' :: '"' :: cs => .ok (['"'], cs)
  | _, '"' :: '"' :: '"' :: cs => .ok ([], cs)
  | _, '\\' :: 'u' :: a :: b :: c :: d :: cs =>
    escapeThen (codePoint? [a, b, c, d]) (readBasicLinesFrom false cs)
  | _, '\\' :: 'U' :: a :: b :: c :: d :: e :: f :: g :: h :: cs =>
    escapeThen (codePoint? [a, b, c, d, e, f, g, h]) (readBasicLinesFrom false cs)
  | joining, '\r' :: '\n' :: cs =>
    if joining then readBasicLinesFrom true cs else andThen '\n' (readBasicLinesFrom false cs)
  | joining, '\n' :: cs =>
    if joining then readBasicLinesFrom true cs else andThen '\n' (readBasicLinesFrom false cs)
  | _, '\\' :: c :: cs =>
    if endsLine (c :: cs) then readBasicLinesFrom true cs
    else escapeThen (simpleEscape? c) (readBasicLinesFrom false cs)
  | joining, c :: cs =>
    if joining ∧ isSpace c then readBasicLinesFrom true cs
    else if isTextChar c ∧ c ≠ '\\' then andThen c (readBasicLinesFrom false cs)
    else .error (.badCharacter c)

/-- The text up to three closing single quotes, of which one or two more may
stand in front. -/
def readLiteralLinesFrom : List Char → Quoted
  | [] => .error .unclosed
  | '\'' :: '\'' :: '\'' :: '\'' :: '\'' :: cs => .ok (['\'', '\''], cs)
  | '\'' :: '\'' :: '\'' :: '\'' :: cs => .ok (['\''], cs)
  | '\'' :: '\'' :: '\'' :: cs => .ok ([], cs)
  | '\r' :: '\n' :: cs => andThen '\n' (readLiteralLinesFrom cs)
  | c :: cs =>
    if isTextChar c ∨ c = '\n' then andThen c (readLiteralLinesFrom cs)
    else .error (.badCharacter c)

/-- The text between three double quotes; a line break right behind the
opening quotes is not part of it. -/
def readBasicLines (cs : List Char) : Quoted :=
  readBasicLinesFrom false ((takeBreak? cs).getD cs)

/-- The text between three single quotes; a line break right behind the
opening quotes is not part of it. -/
def readLiteralLines (cs : List Char) : Quoted :=
  readLiteralLinesFrom ((takeBreak? cs).getD cs)

end SourceLint.Toml
