import Mathlib.Data.List.Basic
import SourceLint.Text.Lines

/-!
# Lines — texts made of lines

A text can be written line by line, each line ended by `\n`. Reading its lines
gives back what was written, but for a `\r` at the end of a line, which then
belongs to the line break.

* `IsLine`             — a line of a text with its number.
* `newline_not_mem`    — no line contains a line break.
* `lines_terminated`   — what is read of the lines that were written.
-/

namespace SourceLint.Text

-- ---------------------------------------------------------------------------
-- The lines of a text
-- ---------------------------------------------------------------------------

/-- No line contains a line break. -/
theorem newline_not_mem {cs l : List Char} (hl : l ∈ lines cs) : '\n' ∉ l := by
  fun_induction lines cs generalizing l with
  | case1 => simp at hl
  | case2 cs ih =>
    rcases List.mem_cons.1 hl with rfl | hl
    · simp
    · exact ih hl
  | case3 cs ih =>
    rcases List.mem_cons.1 hl with rfl | hl
    · simp
    · exact ih hl
  | case4 c cs hn _ _ _ =>
    obtain rfl : l = [c] := by simpa using hl
    simpa using Ne.symm hn
  | case5 c cs hn _ first rest hLines ih =>
    rw [hLines] at ih
    rcases List.mem_cons.1 hl with rfl | hl
    · rw [List.mem_cons, not_or]
      exact ⟨Ne.symm hn, ih (List.mem_cons_self ..)⟩
    · exact ih (List.mem_cons_of_mem _ hl)

theorem numberedFrom_eq_zipIdx {α : Type} (n : Nat) (as : List α) :
    numberedFrom n as = as.zipIdx n := by
  induction as generalizing n with
  | nil => rfl
  | cons a as ih => rw [numberedFrom, List.zipIdx_cons, ih]

theorem numbered_eq_zipIdx {α : Type} (as : List α) : numbered as = as.zipIdx 1 :=
  numberedFrom_eq_zipIdx 1 as

theorem numbered_sorted {α : Type} (as : List α) :
    (numbered as).Pairwise fun p q => p.2 < q.2 := by
  have hNumbers : ((as.zipIdx 1).map Prod.snd).Pairwise (· < ·) := by
    rw [List.zipIdx_map_snd]
    exact List.pairwise_lt_range'
  rw [numbered_eq_zipIdx]
  exact List.pairwise_map.1 hNumbers

/-- `l` is line `n` of the text; lines are counted from 1. -/
def IsLine (text : String) (n : Nat) (l : List Char) : Prop :=
  0 < n ∧ (lines text.toList)[n - 1]? = some l

theorem mem_numbered_lines {text : String} {l : List Char} {n : Nat} :
    (l, n) ∈ numbered (lines text.toList) ↔ IsLine text n l := by
  rw [numbered_eq_zipIdx, List.mk_mem_zipIdx_iff_le_and_getElem?_sub]
  rfl

-- ---------------------------------------------------------------------------
-- Texts written line by line
-- ---------------------------------------------------------------------------

/-- The text of the lines, each ended by a line break. -/
def terminated (ls : List (List Char)) : List Char :=
  ls.flatMap (· ++ ['\n'])

/-- A line without the `\r` at its end, if there is one. -/
def dropReturn (l : List Char) : List Char :=
  if l.getLast? = some '\r' then l.dropLast else l

/-- A line is what `dropReturn` leaves of it, or that and a `\r`. -/
theorem dropReturn_cases (l : List Char) :
    dropReturn l = l ∨ l = dropReturn l ++ ['\r'] := by
  unfold dropReturn
  split
  · next hLast => exact Or.inr (List.dropLast_append_getLast? _ hLast).symm
  · exact Or.inl rfl

theorem dropReturn_cons {c d : Char} {l : List Char} :
    dropReturn (c :: d :: l) = c :: dropReturn (d :: l) := by
  unfold dropReturn
  rw [List.getLast?_cons_cons, List.dropLast_cons_cons]
  split <;> rfl

/-- A single line that is ended by a line break. -/
theorem lines_append_one {l : List Char} (hl : '\n' ∉ l) :
    lines (l ++ ['\n']) = [dropReturn l] := by
  induction l with
  | nil => rfl
  | cons c l ih =>
    rw [List.mem_cons, not_or] at hl
    obtain ⟨hc, hRest⟩ := hl
    cases l with
    | nil =>
      by_cases hr : c = '\r'
      · simp [hr, dropReturn]
      · simp [lines_cons (Ne.symm hc) (absurd · hr), dropReturn, hr]
    | cons d l =>
      have hHead : c = '\r' → (d :: l ++ ['\n']).head? ≠ some '\n' := by
        rintro -
        rw [List.mem_cons, not_or] at hRest
        simpa using Ne.symm hRest.1
      rw [List.cons_append, lines_cons (Ne.symm hc) hHead, ih hRest, dropReturn_cons]

/-- **Reading the lines that were written** gives them back, each without a
`\r` at its end. -/
theorem lines_terminated {ls : List (List Char)} (hLines : ∀ l ∈ ls, '\n' ∉ l) :
    lines (terminated ls) = ls.map dropReturn := by
  induction ls with
  | nil => rfl
  | cons l ls ih =>
    have hl : '\n' ∉ l := hLines l (List.mem_cons_self ..)
    have hls : ∀ l' ∈ ls, '\n' ∉ l' := fun l' h => hLines l' (List.mem_cons_of_mem _ h)
    have hSplit : terminated (l :: ls) = l ++ '\n' :: terminated ls := by
      simp [terminated]
    rw [hSplit, lines_append_newline, lines_append_one hl, ih hls]
    rfl

/-- Lines that end with no `\r` are read as they were written. -/
theorem lines_terminated_eq {ls : List (List Char)}
    (hLines : ∀ l ∈ ls, '\n' ∉ l ∧ l.getLast? ≠ some '\r') : lines (terminated ls) = ls := by
  have hKept : ∀ l ∈ ls, dropReturn l = id l := fun l hl => if_neg (hLines l hl).2
  rw [lines_terminated fun l hl => (hLines l hl).1, List.map_congr_left hKept, List.map_id]

end SourceLint.Text
