import SourceLint.Extract.Mention
import SourceLint.Text.Word

/-!
# Included headers

A system include is `#include <header>`, written with exactly one space and
standing anywhere in a line. Includes in quotes name headers of the project
itself and are no concern here.

* `includes` — the headers that a text includes, each with its first line.
-/

namespace SourceLint

/-- A character of a header's name. -/
def isHeaderChar (c : Char) : Bool :=
  Text.isWord c || c == '/' || c == '.'

/-- A system include; the header's name has at least one character. -/
def systemInclude : Text.Recogniser String := fun cs =>
  match Text.dropStart? "#include <".toList cs with
  | none => none
  | some rest => match rest.takeWhile isHeaderChar, rest.dropWhile isHeaderChar with
    | c :: name, '>' :: _ =>
      some (String.ofList (c :: name), "#include <>".length + (c :: name).length)
    | _, _ => none

/-- The headers that the text includes, in the order of their first include. -/
def includes (text : String) : List Mention :=
  mentions systemInclude text

end SourceLint
