import SourceLint.Text.Unprintable

/-!
# Quoted text

A text between double quotes in which nothing is invisible: the quote and the
backslash are escaped, and what does not show on its own is spelled by number.
-/

namespace SourceLint.Text

/-- The spelling of a character inside quotes. -/
def quotedChar (c : Char) : List Char :=
  match c with
  | '\t' => ['\\', 't']
  | '\r' => ['\\', 'r']
  | '\n' => ['\\', 'n']
  | '\x00' => ['\\', '0']
  | '"' => ['\\', '"']
  | '\\' => ['\\', '\\']
  | c => if isUnprintable c then '\\' :: 'u' :: '{' :: Nat.toDigits 16 c.toNat ++ ['}'] else [c]

/-- The text between double quotes. -/
def quote (s : String) : String :=
  String.ofList ('"' :: s.toList.flatMap quotedChar ++ ['"'])

end SourceLint.Text
