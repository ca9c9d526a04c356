/-!
# Spans of code points

A character class beyond ASCII is a list of spans of code points, both ends
included.
-/

namespace SourceLint.Text

/-- The code points from the first to the second, both included. -/
abbrev CodeSpan := Nat × Nat

/-- The character lies in one of the spans. -/
def inSpans (spans : List CodeSpan) (c : Char) : Bool :=
  spans.any fun (first, last) => first ≤ c.toNat && c.toNat ≤ last

end SourceLint.Text
