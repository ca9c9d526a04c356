import SourceLint.Extract.Mention
import SourceLint.Text.Word

/-!
# Used symbols

A used symbol is `std::` or `boost::` with the word characters and colons that
follow it. Comments and string literals count like any other text, and a
qualifier may start in the middle of a word.

* `usages` — the symbols that a text uses, each with its first line.
-/

namespace SourceLint

/-- The qualifiers of the symbols that are tracked. -/
def qualifiers : List String :=
  ["std::", "boost::"]

/-- A character of a qualified name. -/
def isNameChar (c : Char) : Bool :=
  Text.isWord c || c == ':'

/-- A symbol behind the given qualifier, at least one character long. -/
def qualifiedBy (qualifier : String) : Text.Recogniser String := fun cs =>
  match Text.dropStart? qualifier.toList cs with
  | none => none
  | some rest => match rest.takeWhile isNameChar with
    | [] => none
    | c :: tail =>
      let symbol := qualifier.toList ++ c :: tail
      some (String.ofList symbol, symbol.length)

/-- A symbol behind one of the tracked qualifiers. -/
def qualifiedSymbol : Text.Recogniser String := fun cs =>
  qualifiers.findSome? (qualifiedBy · cs)

/-- The symbols that the text uses, in the order of their first use. -/
def usages (text : String) : List Mention :=
  mentions qualifiedSymbol text

end SourceLint
