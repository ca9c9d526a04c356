import SourceLint.Proofs.Text.Lines

/-!
# Line breaks — taking a text apart where its lines end

A line ends at a *line break*, `\n` or `\r\n`, or with the text. So a text is
its first line, a line break and the rest, and it is also a number of whole
lines with the last line behind them.

Where empty lines do not count the *filled* lines take their place: in front of
each may stand any number of line breaks.

* `lines_append_break`, `eq_append_of_lines`    — the first line of a text.
* `lines_append_wholeLines`, `exists_wholeLines_append`
                                                — the last one.
* `length_lines_append_newline`                 — how many lines there are.
* `exists_line_of_infix`                        — what stands inside a line.
* `exists_break_of_filledLines`, `exists_wholeLines_of_getLast?`
                                                — the same for filled lines.
-/

namespace SourceLint.Text

/-- What ends a line inside a text. -/
def IsLineBreak (b : List Char) : Prop :=
  b = ['\n'] ∨ b = ['\r', '\n']

/-- The text is empty or ends with a line break. -/
def IsWholeLines (x : List Char) : Prop :=
  x = [] ∨ x.getLast? = some '\n'

variable {t l b x : List Char}

-- ---------------------------------------------------------------------------
-- The first line
-- ---------------------------------------------------------------------------

/-- A line in front of a line break. -/
theorem lines_append_break (hl : '\n' ∉ l) (hr : l.getLast? ≠ some '\r') (hb : IsLineBreak b)
    (rest : List Char) : lines (l ++ b ++ rest) = l :: lines rest := by
  rcases hb with rfl | rfl
  · have hLine : dropReturn l = l := if_neg hr
    rw [List.append_assoc, List.singleton_append, lines_append_newline, lines_append_one hl, hLine]
    rfl
  · -- the `\r` is read as a part of the line and then taken away
    have hMem : '\n' ∉ l ++ ['\r'] := by simpa using hl
    have hLine : dropReturn (l ++ ['\r']) = l := by simp [dropReturn]
    have hSplit : l ++ ['\r', '\n'] ++ rest = (l ++ ['\r']) ++ '\n' :: rest := by simp
    rw [hSplit, lines_append_newline, lines_append_one hMem, hLine]
    rfl

/-- A text is its only line, or its first line and a line break with the other
lines behind it. -/
theorem eq_append_of_lines {ls : List (List Char)} (h : lines t = l :: ls) :
    t = l ∧ ls = [] ∨ ∃ b rest, IsLineBreak b ∧ t = l ++ b ++ rest ∧ lines rest = ls := by
  fun_induction lines t generalizing l ls with
  | case1 => simp at h
  | case2 cs ih =>
    obtain ⟨rfl, rfl⟩ := List.cons.inj h
    exact Or.inr ⟨['\n'], cs, Or.inl rfl, rfl, rfl⟩
  | case3 cs ih =>
    obtain ⟨rfl, rfl⟩ := List.cons.inj h
    exact Or.inr ⟨['\r', '\n'], cs, Or.inr rfl, rfl, rfl⟩
  | case4 c cs _ _ empty _ =>
    obtain ⟨rfl, rfl⟩ := List.cons.inj h
    exact Or.inl ⟨by rw [lines_eq_nil_iff.1 empty], rfl⟩
  | case5 c cs _ _ first rest full ih =>
    obtain ⟨rfl, rfl⟩ := List.cons.inj h
    rcases ih full with ⟨rfl, rfl⟩ | ⟨b, rest', hb, rfl, hRest⟩
    · exact Or.inl ⟨rfl, rfl⟩
    · exact Or.inr ⟨b, rest', hb, rfl, hRest⟩

-- ---------------------------------------------------------------------------
-- The last line
-- ---------------------------------------------------------------------------

/-- Behind whole lines a text has its own lines. -/
theorem lines_append_wholeLines (hx : IsWholeLines x) (t : List Char) :
    lines (x ++ t) = lines x ++ lines t := by
  rcases hx with rfl | hLast
  · rw [lines_nil, List.nil_append, List.nil_append]
  · obtain ⟨y, rfl⟩ := List.getLast?_eq_some_iff.1 hLast
    rw [List.append_assoc, List.singleton_append, lines_append_newline]

/-- A text without a line break is one line. -/
theorem lines_of_not_mem (hl : '\n' ∉ l) : lines l = if l = [] then [] else [l] := by
  cases hLines : lines l with
  | nil => rw [if_pos (lines_eq_nil_iff.1 hLines)]
  | cons first rest =>
    have hNe : l ≠ [] := fun hNil => by simp [hNil] at hLines
    rw [if_neg hNe]
    rcases eq_append_of_lines hLines with ⟨rfl, rfl⟩ | ⟨b, rest', hb, rfl, -⟩
    · rfl
    · -- a line break has a `\n` in it
      have hBreak : '\n' ∈ b := by rcases hb with rfl | rfl <;> simp
      exact absurd (List.mem_append_left _ (List.mem_append_right _ hBreak)) hl

/-- A text is whole lines and a last line that no line break ends. -/
theorem exists_wholeLines_append (t : List Char) :
    ∃ x l, IsWholeLines x ∧ '\n' ∉ l ∧ t = x ++ l := by
  by_cases hMem : '\n' ∈ t
  · obtain ⟨after, before, hSplit, hAfter⟩ :=
      List.eq_append_cons_of_mem (List.mem_reverse.2 hMem)
    refine ⟨before.reverse ++ ['\n'], after.reverse, Or.inr (by simp), by simpa using hAfter, ?_⟩
    have hReverse := congrArg List.reverse hSplit
    simpa using hReverse
  · exact ⟨[], t, Or.inl rfl, hMem, rfl⟩

/-- Every `\n` ends a line, and so does the one that is put behind the text. -/
theorem length_lines_append_newline (t : List Char) :
    (lines (t ++ ['\n'])).length = t.count '\n' + 1 := by
  -- by the number of `\n`: the text is taken apart at the first of them
  induction hCount : t.count '\n' generalizing t with
  | zero =>
    rw [lines_append_one (List.count_eq_zero.1 hCount)]
    rfl
  | succ n ih =>
    have hMem : '\n' ∈ t := List.count_pos_iff.1 (by omega)
    obtain ⟨before, after, rfl, hBefore⟩ := List.eq_append_cons_of_mem hMem
    rw [List.count_append, List.count_cons_self, List.count_eq_zero.2 hBefore] at hCount
    rw [List.append_assoc, List.cons_append, lines_append_newline, lines_append_one hBefore,
      List.length_append, ih after (by omega), List.length_singleton]
    omega

-- ---------------------------------------------------------------------------
-- What stands inside a line
-- ---------------------------------------------------------------------------

/-- What begins a text and has no line break in it begins the first line. -/
theorem prefix_of_lines {lead : List Char} {ls : List (List Char)} (hLead : lead <+: t)
    (hNewline : '\n' ∉ lead) (hReturn : lead.getLast? ≠ some '\r') (hLines : lines t = l :: ls) :
    lead <+: l := by
  rcases eq_append_of_lines hLines with ⟨rfl, -⟩ | ⟨b, rest, hb, rfl, -⟩
  · exact hLead
  · rw [List.append_assoc] at hLead
    rcases Nat.le_total lead.length l.length with hShort | hLong
    · exact List.prefix_of_prefix_length_le hLead (List.prefix_append _ _) hShort
    · -- what is left of `lead` behind the line would begin with the line break
      obtain ⟨beyond, rfl⟩ := List.prefix_of_prefix_length_le (List.prefix_append _ _) hLead hLong
      rw [List.prefix_append_right_inj] at hLead
      rw [List.mem_append, not_or] at hNewline
      obtain ⟨-, hBeyond⟩ := hNewline
      cases beyond with
      | nil => simp
      | cons c beyond =>
        rcases hb with rfl | rfl
        · obtain rfl := (List.cons_prefix_cons.1 hLead).1
          exact absurd (List.mem_cons_self ..) hBeyond
        · obtain ⟨rfl, hNext⟩ := List.cons_prefix_cons.1 hLead
          cases beyond with
          | nil => exact absurd (List.getLast?_concat ..) hReturn
          | cons d beyond =>
            obtain rfl := (List.cons_prefix_cons.1 hNext).1
            exact absurd (List.mem_cons_of_mem _ (List.mem_cons_self ..)) hBeyond

/-- **A piece without a line break stands inside a line.** -/
theorem exists_line_of_infix {piece : List Char} (hInfix : piece <:+: t) (hNe : piece ≠ [])
    (hNewline : '\n' ∉ piece) (hReturn : piece.getLast? ≠ some '\r') :
    ∃ l ∈ lines t, piece <:+: l := by
  obtain ⟨before, after, rfl⟩ := hInfix
  obtain ⟨x, lead, hx, hLead, rfl⟩ := exists_wholeLines_append before
  have hFront : lead ++ piece ≠ [] := List.append_ne_nil_of_right_ne_nil _ hNe
  obtain ⟨l, ls, hLines⟩ : ∃ l ls, lines (lead ++ piece ++ after) = l :: ls := by
    apply List.exists_cons_of_ne_nil
    rw [ne_eq, lines_eq_nil_iff]
    exact List.append_ne_nil_of_left_ne_nil hFront _
  have hBegins : lead ++ piece <+: l := by
    refine prefix_of_lines (List.prefix_append _ after) ?_ ?_ hLines
    · rw [List.mem_append, not_or]
      exact ⟨hLead, hNewline⟩
    · rwa [List.getLast?_append_of_ne_nil _ hNe]
  refine ⟨l, ?_, (List.suffix_append lead piece).isInfix.trans hBegins.isInfix⟩
  rw [List.append_assoc, List.append_assoc, lines_append_wholeLines hx, ← List.append_assoc, hLines]
  exact List.mem_append_right _ (List.mem_cons_self ..)

-- ---------------------------------------------------------------------------
-- Filled lines
-- ---------------------------------------------------------------------------

/-- The lines of a text that are not empty. -/
def filledLines (t : List Char) : List (List Char) :=
  (lines t).filter (· ≠ [])

theorem filledLines_append_break (hl : '\n' ∉ l) (hr : l.getLast? ≠ some '\r')
    (hb : IsLineBreak b) (rest : List Char) :
    filledLines (l ++ b ++ rest) = (if l = [] then [] else [l]) ++ filledLines rest := by
  rw [filledLines, lines_append_break hl hr hb, List.filter_cons]
  by_cases h : l = []
  · simp [h, filledLines]
  · simp [h, filledLines]

theorem filledLines_append_wholeLines (hx : IsWholeLines x) (hl : '\n' ∉ l) :
    filledLines (x ++ l) = filledLines x ++ if l = [] then [] else [l] := by
  rw [filledLines, lines_append_wholeLines hx, List.filter_append, lines_of_not_mem hl]
  by_cases h : l = []
  · simp [h, filledLines]
  · simp [h, filledLines]

/-- Line breaks in front of a text add empty lines only. -/
theorem filledLines_breaks_append {bs : List (List Char)} (hbs : ∀ b ∈ bs, IsLineBreak b)
    (rest : List Char) : filledLines (bs.flatten ++ rest) = filledLines rest := by
  induction bs with
  | nil => rfl
  | cons b bs ih =>
    obtain ⟨hb, hRest⟩ := List.forall_mem_cons.1 hbs
    have hFirst := filledLines_append_break (l := []) (by simp) (by simp) hb (bs.flatten ++ rest)
    rw [List.flatten_cons, List.append_assoc, ← ih hRest]
    simpa using hFirst

/-- **The first filled line** stands behind line breaks only and ends with a
line break, if there is another one behind it. -/
theorem exists_break_of_filledLines {l' : List Char} {ls : List (List Char)}
    (h : filledLines t = l :: l' :: ls) :
    ∃ (bs : List (List Char)) (b rest : List Char), (∀ e ∈ bs, IsLineBreak e) ∧ IsLineBreak b ∧
      t = bs.flatten ++ l ++ b ++ rest ∧ filledLines rest = l' :: ls := by
  induction hLines : lines t generalizing t with
  | nil => simp [filledLines, hLines] at h
  | cons first others ih =>
    rcases eq_append_of_lines hLines with ⟨-, rfl⟩ | ⟨b, rest, hb, rfl, hRest⟩
    · -- one line is not enough
      have hLength := congrArg List.length h
      have hShort := List.length_filter_le (fun m : List Char => decide (m ≠ [])) [first]
      rw [filledLines, hLines] at hLength
      simp only [List.length_cons, List.length_nil] at hLength hShort
      omega
    · rw [filledLines, hLines, List.filter_cons] at h
      by_cases hFirst : first = []
      · rw [if_neg (by simpa using hFirst), ← hRest] at h
        obtain ⟨bs, b', rest', hbs, hb', rfl, hRest'⟩ := ih h hRest
        refine ⟨b :: bs, b', rest', List.forall_mem_cons.2 ⟨hb, hbs⟩, hb', ?_, hRest'⟩
        simp [hFirst]
      · rw [if_pos (by simpa using hFirst), ← hRest] at h
        obtain ⟨rfl, hOthers⟩ := List.cons.inj h
        exact ⟨[], b, rest, by simp, hb, by simp, hOthers⟩

/-- **The last filled line** stands behind whole lines, if no line break ends
the text. -/
theorem exists_wholeLines_of_getLast? (h : (filledLines t).getLast? = some l)
    (hEnd : t.getLast? ≠ some '\n') : ∃ x, IsWholeLines x ∧ t = x ++ l := by
  obtain ⟨x, last, hx, hLast, rfl⟩ := exists_wholeLines_append t
  refine ⟨x, hx, ?_⟩
  rw [filledLines_append_wholeLines hx hLast] at h
  by_cases hEmpty : last = []
  · -- then the text is empty or ends with a line break
    rw [hEmpty, List.append_nil] at hEnd
    obtain rfl := hx.resolve_right hEnd
    simp [hEmpty, filledLines] at h
  · have hLine : last = l := by simpa [hEmpty] using h
    rw [hLine]

end SourceLint.Text
