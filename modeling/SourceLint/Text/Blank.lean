import SourceLint.Text.CodeSpan

/-!
# Blank characters

The characters that count as blank at the two ends of a text, in any script:
spaces of every width, tabs and line breaks.

* `isBlank` — the class;
* `trim` — a text without the blanks at its two ends.
-/

namespace SourceLint.Text

/-- The blank characters. -/
def blankSpans : List CodeSpan :=
  [ (0x09, 0x0D), (0x20, 0x20), (0x85, 0x85), (0xA0, 0xA0), (0x1680, 0x1680), (0x2000, 0x200A),
    (0x2028, 0x2029), (0x202F, 0x202F), (0x205F, 0x205F), (0x3000, 0x3000)]

/-- A space, a tab or a line break of any script. -/
def isBlank (c : Char) : Bool :=
  inSpans blankSpans c

/-- The text without the blanks at its end. -/
def trimEnd : List Char → List Char
  | [] => []
  | c :: cs => match trimEnd cs with
    | [] => if isBlank c then [] else [c]
    | d :: ds => c :: d :: ds

/-- The text without the blanks at its two ends. -/
def trim (cs : List Char) : List Char :=
  trimEnd (cs.dropWhile isBlank)

end SourceLint.Text
