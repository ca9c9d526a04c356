/-!
# Scanning a line

A *recogniser* looks at the beginning of a text: it either finds nothing there
or yields what it found and how many characters that takes. `findAll` runs it
over a line from left to right. Where it finds something the search goes on
behind the find, elsewhere one character further on, so finds never overlap
and the leftmost one wins.

* `dropStart?` — the text behind a fixed beginning;
* `findAll` — all that a recogniser finds in a line, from left to right.
-/

namespace SourceLint.Text

/-- The text behind the fixed beginning `lead`, if it begins so. -/
def dropStart? : (lead cs : List Char) → Option (List Char)
  | [], cs => some cs
  | _ :: _, [] => none
  | l :: ls, c :: cs => if l = c then dropStart? ls cs else none

/-- A text begins with `lead` exactly if it is `lead` with a rest behind it. -/
theorem dropStart?_eq_some_iff {lead cs rest : List Char} :
    dropStart? lead cs = some rest ↔ cs = lead ++ rest := by
  induction lead generalizing cs with
  | nil => simp [dropStart?, eq_comm]
  | cons l ls ih =>
    cases cs with
    | nil => simp [dropStart?]
    | cons c cs =>
      by_cases h : l = c
      · simp [dropStart?, h, ih]
      · simp [dropStart?, h, Ne.symm h]

/-- Finds something at the beginning of a text and says how many characters
it takes. -/
abbrev Recogniser (α : Type) := List Char → Option (α × Nat)

/-- All finds in the text once its next `skip` characters, which belong to the
find before them, are passed. -/
def findAllFrom {α : Type} (find : Recogniser α) : (skip : Nat) → List Char → List α
  | _, [] => []
  | skip + 1, _ :: cs => findAllFrom find skip cs
  | 0, c :: cs => match find (c :: cs) with
    | none => findAllFrom find 0 cs
    | some (a, size) => a :: findAllFrom find (size - 1) cs

/-- All that the recogniser finds in the text, from left to right. -/
def findAll {α : Type} (find : Recogniser α) (cs : List Char) : List α :=
  findAllFrom find 0 cs

/-- To pass characters is to drop them. -/
theorem findAllFrom_eq_findAll_drop {α : Type} (find : Recogniser α) (skip : Nat)
    (cs : List Char) : findAllFrom find skip cs = findAll find (cs.drop skip) := by
  induction cs generalizing skip with
  | nil => simp [findAll, findAllFrom]
  | cons c cs ih =>
    cases skip with
    | zero => rfl
    | succ skip => simpa [findAllFrom] using ih skip

@[simp] theorem findAll_nil {α : Type} (find : Recogniser α) : findAll find [] = [] := rfl

/-- Where nothing is found the search goes on one character further. -/
theorem findAll_cons_of_none {α : Type} {find : Recogniser α} {c : Char} {cs : List Char}
    (h : find (c :: cs) = none) : findAll find (c :: cs) = findAll find cs := by
  simp [findAll, findAllFrom, h]

/-- Behind a find the search goes on where the find ends. -/
theorem findAll_cons_of_some {α : Type} {find : Recogniser α} {c : Char} {cs : List Char}
    {a : α} {size : Nat} (h : find (c :: cs) = some (a, size)) :
    findAll find (c :: cs) = a :: findAll find (cs.drop (size - 1)) := by
  rw [findAll, findAllFrom, h]
  simp only [findAllFrom_eq_findAll_drop]

end SourceLint.Text
