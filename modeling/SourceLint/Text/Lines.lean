/-!
# Lines

A line ends at `\n`; one `\r` right before that `\n` belongs to the line break
and not to the line. A text that ends in `\n` has no further, empty line, and
without that `\n` a final `\r` stays part of the last line. Nothing else
breaks a line.

* `lines` — the lines of a text; `lines_append_newline` takes a text apart at
  a line break;
* `numbered` — a list with its positions, counted from 1.
-/

namespace SourceLint.Text

/-- The lines of a text. -/
def lines : List Char → List (List Char)
  | [] => []
  | '\n' :: cs => [] :: lines cs
  | '\r' :: '\n' :: cs => [] :: lines cs
  | c :: cs => match lines cs with
    | [] => [[c]]
    | l :: ls => (c :: l) :: ls

@[simp] theorem lines_nil : lines [] = [] := by
  simp [lines]

@[simp] theorem lines_newline (cs : List Char) : lines ('\n' :: cs) = [] :: lines cs := by
  simp [lines]

@[simp] theorem lines_return_newline (cs : List Char) :
    lines ('\r' :: '\n' :: cs) = [] :: lines cs := by
  simp [lines]

/-- A character that does not begin a line break belongs to the line it stands
in front of. -/
theorem lines_cons {c : Char} {cs : List Char} (hn : c ≠ '\n')
    (hr : c = '\r' → cs.head? ≠ some '\n') :
    lines (c :: cs) = match lines cs with
      | [] => [[c]]
      | l :: ls => (c :: l) :: ls := by
  rw [lines]
  · exact hn
  · rintro t rfl rfl
    simp at hr

/-- A text has a line as soon as it has a character. -/
@[simp] theorem lines_eq_nil_iff {cs : List Char} : lines cs = [] ↔ cs = [] := by
  fun_cases lines cs <;> simp_all

/-- A line break separates: the lines behind it are those of the text behind
it. -/
theorem lines_append_newline (a b : List Char) :
    lines (a ++ '\n' :: b) = lines (a ++ ['\n']) ++ lines b := by
  fun_induction lines a with
  | case1 => simp
  | case2 cs ih => simp [ih]
  | case3 cs ih => simp [ih]
  | case4 c cs hn _ empty _ =>
    obtain rfl : cs = [] := lines_eq_nil_iff.1 empty
    by_cases hc : c = '\r'
    · simp [hc]
    · simp [lines_cons hn (absurd · hc)]
  | case5 c cs hn hr l ls full ih =>
    -- what is put behind `cs` does not touch its first character
    have head (rest : List Char) : c = '\r' → (cs ++ rest).head? ≠ some '\n' := by
      cases cs with
      | nil => simp at full
      | cons d ds =>
        rintro rfl h
        exact hr ds rfl (by simpa using h)
    have nonempty : lines (cs ++ ['\n']) ≠ [] := by simp
    rw [List.cons_append, List.cons_append, lines_cons hn (head _), lines_cons hn (head _), ih]
    cases h : lines (cs ++ ['\n']) with
    | nil => exact absurd h nonempty
    | cons => rfl

/-- The elements with their positions, the first of them at `n`. -/
def numberedFrom {α : Type} (n : Nat) : List α → List (α × Nat)
  | [] => []
  | a :: as => (a, n) :: numberedFrom (n + 1) as

/-- The elements with their positions, counted from 1. -/
def numbered {α : Type} (as : List α) : List (α × Nat) :=
  numberedFrom 1 as

end SourceLint.Text
