import SourceLint.Proofs.Extract.Mention
import SourceLint.Proofs.Trim
import SourceLint.Rule.Check

/-!
# Line endings — no rule sees how the lines of a text end

A line ends with `\n` or with `\r\n`, and behind the last line may stand any
number of line breaks. Three rules read the lines of the text as it is. The
rule on guards takes the blanks around the text away first and leaves empty
lines out, so it meets line breaks that the others do not.

All four look at a text through its lines, up to empty ones at the end, and
through the filled lines of the trimmed text. What is the same in both respects
*reads alike* (`ReadsAlike`), and rewriting line breaks changes neither:

* `lines_rebroken`, `Rebroken.trim`  — other line breaks, the same lines.
* `readsAlike_append_newlines`       — line breaks at the end.
* `check_eq_of_readsAlike`           — texts that read alike are reported alike.
* `check_lineEndings`                — both together, for every rule.
-/

namespace SourceLint

namespace Text

/-- The second text is the first with some of its `\n` written as `\r\n`. -/
inductive Rebroken : List Char → List Char → Prop
  | nil : Rebroken [] []
  | keep (c : Char) {t t' : List Char} (h : Rebroken t t') : Rebroken (c :: t) (c :: t')
  | turn {t t' : List Char} (h : Rebroken t t') : Rebroken ('\n' :: t) ('\r' :: '\n' :: t')

variable {t t' u u' : List Char}

theorem Rebroken.refl (t : List Char) : Rebroken t t := by
  induction t with
  | nil => exact .nil
  | cons c t ih => exact .keep c ih

-- ---------------------------------------------------------------------------
-- Other line breaks
-- ---------------------------------------------------------------------------

theorem Rebroken.append (h : Rebroken t t') (h' : Rebroken u u') :
    Rebroken (t ++ u) (t' ++ u') := by
  induction h with
  | nil => exact h'
  | keep c _ ih => exact .keep c ih
  | turn _ ih => exact .turn ih

/-- Line breaks of both kinds are as many `\n`, some of them written otherwise. -/
theorem rebroken_breaks {bs : List (List Char)} (hbs : ∀ b ∈ bs, IsLineBreak b) :
    Rebroken (List.replicate bs.length '\n') bs.flatten := by
  induction bs with
  | nil => exact .nil
  | cons b bs ih =>
    obtain ⟨hb, hRest⟩ := List.forall_mem_cons.1 hbs
    rw [List.length_cons, List.replicate_succ, List.flatten_cons]
    rcases hb with rfl | rfl
    · exact .keep '\n' (ih hRest)
    · exact .turn (ih hRest)

/-- **Other line breaks, the same lines**, where no `\r` stood before. -/
theorem lines_rebroken (h : Rebroken t t') (hReturn : '\r' ∉ t) : lines t' = lines t := by
  induction h with
  | nil => rfl
  | keep c _ ih =>
    rw [List.mem_cons, not_or] at hReturn
    obtain ⟨hc, hRest⟩ := hReturn
    by_cases hn : c = '\n'
    · rw [hn, lines_newline, lines_newline, ih hRest]
    · rw [lines_cons hn (absurd · (Ne.symm hc)), lines_cons hn (absurd · (Ne.symm hc)), ih hRest]
  | turn _ ih =>
    rw [lines_return_newline, lines_newline, ih fun hMem => hReturn (List.mem_cons_of_mem _ hMem)]

theorem Rebroken.dropWhile_isBlank (h : Rebroken t t') :
    Rebroken (t.dropWhile isBlank) (t'.dropWhile isBlank) := by
  induction h with
  | nil => exact .nil
  | keep c h ih =>
    by_cases hc : isBlank c = true
    · rwa [List.dropWhile_cons_of_pos hc, List.dropWhile_cons_of_pos hc]
    · rw [List.dropWhile_cons_of_neg hc, List.dropWhile_cons_of_neg hc]
      exact .keep c h
  | turn _ ih =>
    have hReturn : isBlank '\r' = true := by decide
    have hNewline : isBlank '\n' = true := by decide
    rwa [List.dropWhile_cons_of_pos hNewline, List.dropWhile_cons_of_pos hReturn,
      List.dropWhile_cons_of_pos hNewline]

theorem Rebroken.eq_nil_iff (h : Rebroken t t') : t = [] ↔ t' = [] := by
  cases h <;> simp

theorem trimEnd_cons_of_nil {c : Char} (h : trimEnd t = []) :
    trimEnd (c :: t) = if isBlank c then [] else [c] := by
  rw [trimEnd, h]

theorem trimEnd_cons_of_ne {c : Char} (h : trimEnd t ≠ []) :
    trimEnd (c :: t) = c :: trimEnd t := by
  obtain ⟨d, ds, hCons⟩ := List.exists_cons_of_ne_nil h
  rw [trimEnd, hCons]

theorem Rebroken.trimEnd (h : Rebroken t t') : Rebroken (trimEnd t) (trimEnd t') := by
  induction h with
  | nil => exact .nil
  | @keep c t t' _ ih =>
    by_cases hNil : Text.trimEnd t = []
    · rw [trimEnd_cons_of_nil hNil, trimEnd_cons_of_nil (ih.eq_nil_iff.1 hNil)]
      split
      · exact .nil
      · exact .keep c .nil
    · rw [trimEnd_cons_of_ne hNil, trimEnd_cons_of_ne (mt ih.eq_nil_iff.2 hNil)]
      exact .keep c ih
  | @turn t t' _ ih =>
    have hReturn : isBlank '\r' = true := by decide
    have hNewline : isBlank '\n' = true := by decide
    by_cases hNil : Text.trimEnd t = []
    · -- both characters of the line break are blank, and nothing follows them
      have hBreak : Text.trimEnd ('\n' :: t') = [] := by
        rw [trimEnd_cons_of_nil (ih.eq_nil_iff.1 hNil), if_pos hNewline]
      rw [trimEnd_cons_of_nil hNil, trimEnd_cons_of_nil hBreak, if_pos hNewline, if_pos hReturn]
      exact .nil
    · have hBreak : Text.trimEnd ('\n' :: t') = '\n' :: Text.trimEnd t' :=
        trimEnd_cons_of_ne (mt ih.eq_nil_iff.2 hNil)
      rw [trimEnd_cons_of_ne hNil, trimEnd_cons_of_ne (hBreak ▸ List.cons_ne_nil _ _), hBreak]
      exact .turn ih

/-- The blanks around a text may be taken away before or after its line breaks
are rewritten. -/
theorem Rebroken.trim (h : Rebroken t t') : Rebroken (trim t) (trim t') :=
  h.dropWhile_isBlank.trimEnd

-- ---------------------------------------------------------------------------
-- Texts that read alike
-- ---------------------------------------------------------------------------

/-- The second text has the lines of the first and perhaps empty ones behind
them, and without the blanks around them both have the same filled lines. -/
structure ReadsAlike (t t' : List Char) : Prop where
  lines : ∃ n, lines t' = lines t ++ List.replicate n []
  filled : filledLines (Text.trim t') = filledLines (Text.trim t)

theorem ReadsAlike.refl (t : List Char) : ReadsAlike t t where
  lines := ⟨0, by simp⟩
  filled := rfl

theorem ReadsAlike.trans (h : ReadsAlike t u) (h' : ReadsAlike u t') : ReadsAlike t t' where
  lines := by
    obtain ⟨n, hn⟩ := h.lines
    obtain ⟨m, hm⟩ := h'.lines
    exact ⟨n + m, by rw [hm, hn, List.append_assoc, List.replicate_append_replicate]⟩
  filled := h'.filled.trans h.filled

/-- Other line breaks are not read. -/
theorem readsAlike_rebroken (h : Rebroken t t') (hReturn : '\r' ∉ t) : ReadsAlike t t' where
  lines := ⟨0, by rw [lines_rebroken h hReturn, List.replicate_zero, List.append_nil]⟩
  filled := by
    have hTrimmed : '\r' ∉ Text.trim t := fun hMem => hReturn ((trim_isInfix t).subset hMem)
    rw [filledLines, filledLines, lines_rebroken h.trim hTrimmed]

theorem return_not_mem_append (hReturn : '\r' ∉ t) (n : Nat) :
    '\r' ∉ t ++ List.replicate n '\n' := by
  rw [List.mem_append, not_or]
  exact ⟨hReturn, fun hMem => absurd (List.eq_of_mem_replicate hMem) (by decide)⟩

/-- One more line break at the end ends the last line, or it adds an empty one. -/
theorem readsAlike_append_newline (hReturn : '\r' ∉ t) : ReadsAlike t (t ++ ['\n']) where
  lines := by
    obtain ⟨x, l, hx, hl, rfl⟩ := exists_wholeLines_append t
    have hLast : dropReturn l = l :=
      if_neg fun hEnd => hReturn (List.mem_append_right _ (List.mem_of_getLast? hEnd))
    rw [List.append_assoc, lines_append_wholeLines hx, lines_append_wholeLines hx,
      lines_append_one hl, hLast, lines_of_not_mem hl]
    by_cases hNil : l = []
    · exact ⟨1, by simp [hNil]⟩
    · exact ⟨0, by simp [hNil]⟩
  filled := by
    have hBlank : ∀ c ∈ ['\n'], isBlank c = true := by decide
    have hTrim := trim_append (List.forall_mem_nil _) hBlank t
    rw [List.nil_append, ← trim_eq, ← trim_eq] at hTrim
    rw [hTrim]

/-- **Line breaks at the end** are not read. -/
theorem readsAlike_append_newlines (hReturn : '\r' ∉ t) (n : Nat) :
    ReadsAlike t (t ++ List.replicate n '\n') := by
  induction n with
  | zero => simpa using ReadsAlike.refl t
  | succ n ih =>
    rw [List.replicate_succ', ← List.append_assoc]
    exact ih.trans (readsAlike_append_newline (return_not_mem_append hReturn n))

end Text

-- ---------------------------------------------------------------------------
-- What the rules read
-- ---------------------------------------------------------------------------

variable {text text' : String}

/-- Nothing is mentioned in empty lines. -/
theorem mentions_eq_of_readsAlike (find : Text.Recogniser String)
    (h : Text.ReadsAlike text.toList text'.toList) : mentions find text' = mentions find text := by
  obtain ⟨n, hLines⟩ := h.lines
  have hEmpty : ∀ l ∈ List.replicate n [], Text.findAll find l = [] := by
    intro l hl
    rw [List.eq_of_mem_replicate hl, Text.findAll_nil]
  unfold mentions
  rw [hLines, Text.numbered_eq_zipIdx, Text.numbered_eq_zipIdx, List.zipIdx_append,
    occurrences_append, occurrences_of_none hEmpty, List.append_nil]

theorem hasGuard_eq_of_readsAlike (guard : String)
    (h : Text.ReadsAlike text.toList text'.toList) : hasGuard text' guard = hasGuard text guard := by
  have hFilled := h.filled
  unfold Text.filledLines at hFilled
  unfold hasGuard
  rw [hFilled]

/-- No empty line is too long. -/
theorem filter_tooLong_eq_of_readsAlike (max : Nat)
    (h : Text.ReadsAlike text.toList text'.toList) :
    (Text.numbered (Text.lines text'.toList)).filter (max < ·.1.length) =
      (Text.numbered (Text.lines text.toList)).filter (max < ·.1.length) := by
  obtain ⟨n, hLines⟩ := h.lines
  have hEmpty (k : Nat) :
      ((List.replicate n ([] : List Char)).zipIdx k).filter (max < ·.1.length) = [] := by
    rw [List.filter_eq_nil_iff]
    rintro ⟨l, i⟩ hl
    obtain rfl := List.eq_of_mem_replicate (List.fst_mem_of_mem_zipIdx hl)
    simp
  rw [hLines, Text.numbered_eq_zipIdx, Text.numbered_eq_zipIdx, List.zipIdx_append,
    List.filter_append, hEmpty, List.append_nil]

namespace Rule

/-- **Texts that read alike are reported alike**, by every rule. -/
theorem check_eq_of_readsAlike (context : Context) (file : SourceFile) (r : Rule)
    (h : Text.ReadsAlike file.text.toList text'.toList) :
    check context { file with text := text' } r = check context file r := by
  cases r with
  | headerGuard =>
    unfold check checkHeaderGuard
    simp only [hasGuard_eq_of_readsAlike _ h]
    rfl
  | testGroup =>
    unfold check checkTestGroup testGroups
    simp only [mentions_eq_of_readsAlike _ h]
    rfl
  | systemIncludes =>
    unfold check checkSystemIncludes reconcile usages includes
    simp only [mentions_eq_of_readsAlike _ h]
    rfl
  | lineLength =>
    unfold check checkLineLength
    simp only [filter_tooLong_eq_of_readsAlike _ h]
    rfl

/--
**Line endings do not matter.** Where a text without `\r` has some of its `\n`
written as `\r\n`, and any line breaks of both kinds are put behind it, every
rule finds the same in it as before, with the same lines and the same messages.
-/
theorem check_lineEndings (context : Context) (path root : Path) (kind : FileKind)
    {bs : List (List Char)} {t : List Char} (hReturn : '\r' ∉ text.toList)
    (hBreaks : Text.Rebroken text.toList t) (hEnd : ∀ b ∈ bs, Text.IsLineBreak b)
    (hText : text'.toList = t ++ bs.flatten) (r : Rule) :
    check context (SourceFile.ofPath path root kind text') r =
      check context (SourceFile.ofPath path root kind text) r := by
  -- first the line breaks are put behind the text, then some of all are rewritten
  have hRebroken : Text.Rebroken (text.toList ++ List.replicate bs.length '\n') text'.toList := by
    rw [hText]
    exact hBreaks.append (Text.rebroken_breaks hEnd)
  have hAlike : Text.ReadsAlike text.toList text'.toList :=
    (Text.readsAlike_append_newlines hReturn bs.length).trans
      (Text.readsAlike_rebroken hRebroken (Text.return_not_mem_append hReturn _))
  exact check_eq_of_readsAlike context (SourceFile.ofPath path root kind text) r hAlike

/-- A text about which every rule has something to say. -/
def unevenText : String :=
  "#ifndef UNEVEN_H\nTEST(Old, Name)\n\nstd::map<int, std::string> s;"

/-- The same text with mixed line endings and empty lines behind it. -/
def unevenTextMixed : String :=
  "#ifndef UNEVEN_H\r\nTEST(Old, Name)\n\r\nstd::map<int, std::string> s;\r\n\n\r\n"

/-- A test that is also a header, with the given text. -/
def unevenFile (text : String) : SourceFile :=
  .ofPath ⟨"/lib/uneven_test.cpp"⟩ ⟨"/"⟩ .header text

/-- Lines of twenty characters, and one known symbol. -/
def shortLines : Context where
  knowledge := .ofEntries [("std::map", "map")]
  maxLength := 20
  severity := fun _ => .error

/-- All that is found in both, rule by rule. -/
theorem check_lineEndings_uneven :
    (∀ r, check shortLines (unevenFile unevenTextMixed) r =
      check shortLines (unevenFile unevenText) r) ∧
      inOrder.map (fun r => (check shortLines (unevenFile unevenText) r).map fun v =>
          (v.location.line, v.message)) =
        [[(1, "Bad or missing guard. Expected LIB_UNEVEN_TEST_CPP.")],
          [(2, "Bad or missing test group. Expected LUnevenTest.")],
          [(4, "std::map requires include map"), (4, "No include mapping for std::string")],
          [(4, "line exceeds 20 chars")]] := by
  have hPlain : unevenText.toList =
      "#ifndef UNEVEN_H".toList ++ '\n' :: ("TEST(Old, Name)\n".toList ++ '\n' ::
        "std::map<int, std::string> s;".toList) := by
    simp [unevenText]
  have hMixed : unevenTextMixed.toList =
      "#ifndef UNEVEN_H".toList ++ '\r' :: '\n' :: ("TEST(Old, Name)\n".toList ++
        '\r' :: '\n' :: "std::map<int, std::string> s;".toList) ++
          [['\r', '\n'], ['\n'], ['\r', '\n']].flatten := by
    simp [unevenTextMixed]
  have hReturn : '\r' ∉ unevenText.toList := by simp [unevenText]
  have hBreaks := (Text.Rebroken.refl "#ifndef UNEVEN_H".toList).append
    (.turn ((Text.Rebroken.refl "TEST(Old, Name)\n".toList).append
      (.turn (.refl "std::map<int, std::string> s;".toList))))
  rw [← hPlain] at hBreaks
  have hEnd : ∀ b ∈ [['\r', '\n'], ['\n'], ['\r', '\n']], Text.IsLineBreak b := by
    simp [Text.IsLineBreak]
  exact ⟨check_lineEndings shortLines _ _ _ hReturn hBreaks hEnd hMixed, by decide +kernel⟩

end Rule

end SourceLint
