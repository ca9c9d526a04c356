import SourceLint.Path.Basic

/-!
# Texts byte by byte

A system keeps names and paths as bytes, which need not be text. Here each byte
is written as the character of its number, so that a path of bytes is a text in
which slashes and dots stand where they stood.

* `spell` — the bytes of a text;
* `text?` — the text that bytes spell, if they spell one;
* `lossy` — the text in which bytes are shown;
* `spelled`, `shown` — the same for paths.
-/

namespace SourceLint.Bytewise

/-- The bytes of a character. -/
def spellChar (c : Char) : List Char :=
  (String.utf8EncodeChar c).map Char.ofUInt8

/-- The bytes of some characters. -/
def spellChars (cs : List Char) : List Char :=
  cs.flatMap spellChar

/-- The bytes of a text. -/
def spell (s : String) : String :=
  String.ofList (spellChars s.toList)

-- ---------------------------------------------------------------------------
-- Reading
-- ---------------------------------------------------------------------------

/-- The bytes from one to another. -/
structure Range where
  first : Nat
  last : Nat

/-- The bytes that continue a character. -/
def Range.tail : Range :=
  ⟨0x80, 0xBF⟩

/-- What may follow the first byte of a character, if one begins with it. The
narrower ranges leave out long forms of small numbers, surrogates and numbers
beyond the last character. -/
def following? (first : Nat) : Option (List Range) :=
  if first < 0x80 then some []
  else if first < 0xC2 then none
  else if first < 0xE0 then some [.tail]
  else if first = 0xE0 then some [⟨0xA0, 0xBF⟩, .tail]
  else if first = 0xED then some [⟨0x80, 0x9F⟩, .tail]
  else if first < 0xF0 then some [.tail, .tail]
  else if first = 0xF0 then some [⟨0x90, 0xBF⟩, .tail, .tail]
  else if first < 0xF4 then some [.tail, .tail, .tail]
  else if first = 0xF4 then some [⟨0x80, 0x8F⟩, .tail, .tail]
  else none

/-- The bytes in front that lie in the ranges, one in each. -/
def within : List Range → List Nat → List Nat
  | r :: rs, b :: bs => if r.first ≤ b ∧ b ≤ r.last then b :: within rs bs else []
  | _, _ => []

/-- The bits that the first byte of a character has of its number: the more
bytes behind it, the fewer. -/
def highBits (first : Nat) : List Nat → Nat
  | [] => first
  | [_] => first % 32
  | [_, _] => first % 16
  | _ => first % 8

/-- The number of the character with these bytes. Each byte of the tail has six
bits of it, and the first byte has the highest ones. -/
def codePoint (first : Nat) (tail : List Nat) : Nat :=
  tail.foldl (fun n b => n * 64 + b % 64) (highBits first tail)

/-- The character that begins with the first byte, if it is complete, and how
many of the bytes behind belong to it or to what there is of it. -/
def readFirst (first : Nat) (bs : List Nat) : Option Char × Nat :=
  match following? first with
  | none => (none, 0)
  | some ranges =>
    let tail := within ranges bs
    if tail.length = ranges.length then (some (Char.ofNat (codePoint first tail)), tail.length)
    else (none, tail.length)

/-- The characters behind so many bytes, with `none` for each part that is no
character. -/
def decodeFrom : Nat → List Nat → List (Option Char)
  | _, [] => []
  | n + 1, _ :: bs => decodeFrom n bs
  | 0, b :: bs => (readFirst b bs).1 :: decodeFrom (readFirst b bs).2 bs

/-- The characters that the bytes spell. -/
def decode (s : String) : List (Option Char) :=
  decodeFrom 0 (s.toList.map Char.toNat)

/-- The text that the bytes spell, if all parts are characters. -/
def text? (s : String) : Option String :=
  ((decode s).mapM id).map String.ofList

/-- The text in which the bytes are shown, with a mark for each part that is no
character. -/
def lossy (s : String) : String :=
  String.ofList ((decode s).map (·.getD '\uFFFD'))

-- ---------------------------------------------------------------------------
-- Paths
-- ---------------------------------------------------------------------------

/-- The path in bytes. -/
def spelled (path : Path) : Path :=
  ⟨spell path.text⟩

/-- The path as it is shown. -/
def shown (path : Path) : Path :=
  ⟨lossy path.text⟩

end SourceLint.Bytewise
