import SourceLint.Binary64
import SourceLint.Toml.DateTime

/-!
# Values and problems

The values that a settings document is made of, and what can be wrong with the
text of one.
-/

namespace SourceLint.Toml

/-- A value of a document. The keys of a table are distinct. -/
inductive Value where
  | string (s : String)
  | integer (n : Int)
  | float (x : Binary64)
  | boolean (b : Bool)
  | dateTime (d : DateTime)
  | array (elements : List Value)
  | table (entries : List (String × Value))

/-- The value under the key, if this is a table that has it. -/
def Value.get? (v : Value) (key : String) : Option Value :=
  match v with
  | .table entries => entries.lookup key
  | _ => none

/-- What can be wrong with the text of a document. -/
inductive Problem where
  /-- Something else had to stand here. -/
  | expected (what : String)
  /-- A quoted text has no end. -/
  | unclosed
  /-- A backslash with something that it does not escape. -/
  | badEscape
  /-- A character that may not stand where it does. -/
  | badCharacter (c : Char)
  /-- Neither a number nor a date, a time or a truth value. -/
  | badScalar (token : String)
  /-- Arrays, inline tables or keys nested beyond the limit. -/
  | tooDeep
  /-- The key has a value already, or its table is closed. -/
  | duplicateKey (key : String)
  /-- The key's value is not a table. -/
  | notATable (key : String)
deriving DecidableEq, Repr

/-- A problem in words. -/
def Problem.message : Problem → String
  | .expected what => "expected " ++ what
  | .unclosed => "a quoted text has no end"
  | .badEscape => "invalid escape sequence"
  | .badCharacter c => "invalid character " ++ toString c.toNat
  | .badScalar token => "invalid value " ++ token
  | .tooDeep => "nested too deeply"
  | .duplicateKey key => "duplicate key " ++ key
  | .notATable key => key ++ " is not a table"

end SourceLint.Toml
