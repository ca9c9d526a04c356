import SourceLint.Rule.Basic
import SourceLint.Text.Lines

/-!
# Line length

No line has more than a given number of characters.
-/

namespace SourceLint

/-- The limit where the settings give none. -/
def defaultMaxLength : Nat :=
  140

/-- The rule on the length of lines. -/
def Rule.checkLineLength (max : Nat) (severity : Severity) (file : SourceFile) :
    List Violation :=
  ((Text.numbered (Text.lines file.text.toList)).filter (max < ·.1.length)).map fun (_, n) =>
    Rule.lineLength.violation severity file n ("line exceeds " ++ toString max ++ " chars")

end SourceLint
