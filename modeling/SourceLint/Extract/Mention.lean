import SourceLint.Distinct
import SourceLint.Text.Lines
import SourceLint.Text.Scan

/-!
# Mentions

Names are extracted from a text line by line, by a recogniser that never looks
beyond a line. Each name is listed once, with the line that first mentions it.

* `Mention` — a name and that line;
* `mentions` — all that a recogniser finds in a text.
-/

namespace SourceLint

/-- A name and the line, counted from 1, that first mentions it. -/
structure Mention where
  name : String
  line : Nat
deriving DecidableEq, Repr

/-- Every find in the given lines, repetitions included. -/
def occurrences (find : Text.Recogniser String) (lines : List (List Char × Nat)) :
    List Mention :=
  lines.flatMap fun (line, n) => (Text.findAll find line).map (⟨·, n⟩)

/-- The names that the recogniser finds in the lines of the text, each where
it first occurs. -/
def mentions (find : Text.Recogniser String) (text : String) : List Mention :=
  distinctOn (·.name) (occurrences find (Text.numbered (Text.lines text.toList)))

end SourceLint
