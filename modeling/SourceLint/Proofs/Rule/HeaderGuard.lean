import SourceLint.Proofs.Rule.Message
import SourceLint.Proofs.Text.LineBreak
import SourceLint.Proofs.Trim
import SourceLint.Rule.HeaderGuard

/-!
# Header guards — which texts are guarded, exactly

`hasGuard` looks at three lines of a text: the first two and the last one of
those that are not empty, once the blanks around the text are gone. This module
says character by character which texts pass: the opening line, line breaks,
the second line, a line break, whole lines of any kind, and the closing line,
with nothing behind it.

* `hasGuard_iff_filledLines` — the three lines.
* `hasGuard_iff_isGuarded`   — the same, character by character.
* `isGuarded_wrapped`        — a body that is wrapped is guarded.
* `hasGuard_exact`           — the rule as a whole.
-/

namespace SourceLint

/-- The characters of a guard are capital letters, digits and `_`. -/
def IsGuardName (guard : String) : Prop :=
  ∀ c ∈ guard.toList, (c.isUpper || c.isDigit || c == '_') = true

instance (guard : String) : Decidable (IsGuardName guard) :=
  List.decidableBAll _ _

/-- The text is wrapped in the guard and nothing stands around it: the two
opening lines, with nothing but line breaks between them, and the closing line
behind whole lines of any kind. -/
def IsGuarded (guard : String) (t : List Char) : Prop :=
  ∃ (b : List Char) (bs : List (List Char)) (b' x : List Char),
    Text.IsLineBreak b ∧ (∀ e ∈ bs, Text.IsLineBreak e) ∧ Text.IsLineBreak b' ∧
    Text.IsWholeLines x ∧
    t = ("#ifndef " ++ guard).toList ++ b ++ bs.flatten ++ ("#define " ++ guard).toList ++ b' ++
      x ++ ("#endif //" ++ guard).toList

variable {guard : String} {text : String}

-- ---------------------------------------------------------------------------
-- The lines of a guard
-- ---------------------------------------------------------------------------

/-- A directive with a guard behind it is one line. -/
theorem oneLine_directive (hGuard : IsGuardName guard) {lead : String}
    (hLead : OneLine lead.toList) : OneLine (lead ++ guard).toList := by
  rw [String.toList_append, oneLine_append]
  exact ⟨hLead, oneLine_of_forall hGuard rfl rfl⟩

theorem toList_append_ne_nil {lead : String} (hLead : lead ≠ "") (rest : String) :
    (lead ++ rest).toList ≠ [] := by
  rw [String.toList_append]
  exact List.append_ne_nil_of_left_ne_nil (by simpa using hLead) _

/-- The second line of a guard is not its last one. -/
theorem define_ne_endif : ("#define " ++ guard).toList ≠ ("#endif //" ++ guard).toList := by
  intro h
  rw [String.toList_append, String.toList_append] at h
  exact absurd (congrArg (·[1]?) h) (by simp)

/-- A line in front of a line break is read as it was written. -/
theorem filledLines_oneLine_append {l b : List Char} (hl : OneLine l) (hNe : l ≠ [])
    (hb : Text.IsLineBreak b) (rest : List Char) :
    Text.filledLines (l ++ b ++ rest) = l :: Text.filledLines rest := by
  obtain ⟨hNewline, hReturn⟩ := hl.unbroken
  rw [Text.filledLines_append_break hNewline hReturn hb, if_neg hNe]
  rfl

-- ---------------------------------------------------------------------------
-- The ends of a guarded text
-- ---------------------------------------------------------------------------

theorem toNat_lt_of_guardChar {c : Char} (hc : (c.isUpper || c.isDigit || c == '_') = true) :
    c.toNat < 128 := by
  by_cases hUnderscore : c = '_'
  · rw [hUnderscore]
    decide
  · have hKinds : c.isAlphanum = (c.isUpper || c.isLower || c.isDigit) := rfl
    rw [beq_false_of_ne hUnderscore, Bool.or_false] at hc
    apply toNat_lt_of_isAlphanum
    rw [hKinds, Bool.or_right_comm, hc, Bool.true_or]

theorem isBlank_of_guardChar {c : Char} (hc : (c.isUpper || c.isDigit || c == '_') = true) :
    Text.isBlank c = false := by
  have hAscii : ∀ c ∈ Text.asciiChars,
      (c.isUpper || c.isDigit || c == '_') = true → Text.isBlank c = false := by
    decide +kernel
  exact hAscii c (Text.mem_asciiChars (toNat_lt_of_guardChar hc)) hc

/-- No blank stands at an end of a guarded text. -/
theorem trim_of_isGuarded (hGuard : IsGuardName guard) {t : List Char} (ht : IsGuarded guard t) :
    Text.trim t = t := by
  obtain ⟨b, bs, b', x, -, -, -, -, rfl⟩ := ht
  rw [Text.trim_eq]
  apply trim_eq_self
  · intro c hc
    simp only [String.toList_append, List.append_assoc] at hc
    obtain rfl : '#' = c := Option.some.inj hc
    decide
  · intro c hc
    rw [List.getLast?_append, String.toList_append, List.getLast?_append] at hc
    cases hLast : guard.toList.getLast? with
    | none =>
      rw [hLast] at hc
      obtain rfl : '/' = c := Option.some.inj hc
      decide
    | some d =>
      rw [hLast] at hc
      obtain rfl : d = c := Option.some.inj hc
      exact isBlank_of_guardChar (hGuard d (List.mem_of_getLast? hLast))

-- ---------------------------------------------------------------------------
-- The three lines, character by character
-- ---------------------------------------------------------------------------

/-- **The three lines** that are looked at are three different lines. -/
theorem hasGuard_iff_filledLines :
    hasGuard text guard = true ↔
      ∃ more, Text.filledLines (Text.trim text.toList) =
          ("#ifndef " ++ guard).toList :: ("#define " ++ guard).toList :: more ∧
        more.getLast? = some ("#endif //" ++ guard).toList := by
  have hUnfold : hasGuard text guard = true ↔
      (Text.filledLines (Text.trim text.toList))[0]? = some ("#ifndef " ++ guard).toList ∧
      (Text.filledLines (Text.trim text.toList))[1]? = some ("#define " ++ guard).toList ∧
      (Text.filledLines (Text.trim text.toList)).getLast? = some ("#endif //" ++ guard).toList := by
    simp only [hasGuard, Bool.and_eq_true, decide_eq_true_eq, and_assoc]
    rfl
  rw [hUnfold]
  generalize Text.filledLines (Text.trim text.toList) = ls
  constructor
  · intro hLines
    obtain ⟨hFirst, hSecond, hLast⟩ := hLines
    obtain ⟨first, ls, rfl⟩ : ∃ first rest, ls = first :: rest :=
      List.exists_cons_of_ne_nil fun hNil => by simp [hNil] at hFirst
    obtain ⟨second, more, rfl⟩ : ∃ second more, ls = second :: more :=
      List.exists_cons_of_ne_nil fun hNil => by simp [hNil] at hSecond
    obtain rfl := Option.some.inj hFirst
    obtain rfl := Option.some.inj hSecond
    refine ⟨more, rfl, ?_⟩
    cases more with
    | nil => exact absurd (Option.some.inj hLast) define_ne_endif
    | cons l more => rwa [List.getLast?_cons_cons, List.getLast?_cons_cons] at hLast
  · intro hLines
    obtain ⟨more, rfl, hLast⟩ := hLines
    obtain ⟨l, more, rfl⟩ : ∃ l rest, more = l :: rest :=
      List.exists_cons_of_ne_nil fun hNil => by simp [hNil] at hLast
    refine ⟨rfl, rfl, ?_⟩
    rwa [List.getLast?_cons_cons, List.getLast?_cons_cons]

theorem isGuarded_of_hasGuard (h : hasGuard text guard = true) :
    IsGuarded guard (Text.trim text.toList) := by
  obtain ⟨more, hLines, hLast⟩ := hasGuard_iff_filledLines.1 h
  obtain ⟨next, others, rfl⟩ : ∃ next others, more = next :: others :=
    List.exists_cons_of_ne_nil fun hNil => by simp [hNil] at hLast
  obtain ⟨bs, b, rest, hbs, hb, hText, hRest⟩ := Text.exists_break_of_filledLines hLines
  obtain ⟨bs', b', rest', hbs', hb', rfl, hMore⟩ := Text.exists_break_of_filledLines hRest
  -- a trimmed text begins with no line break and ends with none
  have hFront : bs = [] := by
    cases bs with
    | nil => rfl
    | cons e es =>
      have hHead : ∃ c, (Text.trim text.toList).head? = some c ∧ Text.isBlank c = true := by
        rw [hText]
        rcases hbs e (List.mem_cons_self ..) with rfl | rfl
        · exact ⟨'\n', rfl, by decide⟩
        · exact ⟨'\r', rfl, by decide⟩
      obtain ⟨c, hc, hBlank⟩ := hHead
      rw [Text.isBlank_of_head?_trim hc] at hBlank
      exact absurd hBlank Bool.false_ne_true
  have hEnd : rest'.getLast? ≠ some '\n' := by
    intro hNewline
    have hTextEnd : (Text.trim text.toList).getLast? = some '\n' := by
      rw [hText, List.getLast?_append, List.getLast?_append, hNewline]
      rfl
    exact absurd (Text.isBlank_of_getLast?_trim hTextEnd) (by decide)
  rw [← hMore] at hLast
  obtain ⟨x, hx, rfl⟩ := Text.exists_wholeLines_of_getLast? hLast hEnd
  refine ⟨b, bs', b', x, hb, hbs', hb', hx, ?_⟩
  rw [hText, hFront]
  simp only [List.flatten_nil, List.nil_append, List.append_assoc]

theorem hasGuard_of_isGuarded (hGuard : IsGuardName guard)
    (h : IsGuarded guard (Text.trim text.toList)) : hasGuard text guard = true := by
  obtain ⟨b, bs, b', x, hb, hbs, hb', hx, hText⟩ := h
  have hFirst : OneLine ("#ifndef " ++ guard).toList := oneLine_directive hGuard (by decide)
  have hSecond : OneLine ("#define " ++ guard).toList := oneLine_directive hGuard (by decide)
  have hLast : OneLine ("#endif //" ++ guard).toList := oneLine_directive hGuard (by decide)
  have hNewline : '\n' ∉ ("#endif //" ++ guard).toList := fun h => (hLast _ h).1 rfl
  rw [hasGuard_iff_filledLines]
  refine ⟨Text.filledLines x ++ [("#endif //" ++ guard).toList], ?_, List.getLast?_concat⟩
  calc Text.filledLines (Text.trim text.toList)
      = Text.filledLines (("#ifndef " ++ guard).toList ++ b ++ (bs.flatten ++
          (("#define " ++ guard).toList ++ b' ++ (x ++ ("#endif //" ++ guard).toList)))) := by
        rw [hText]
        simp only [List.append_assoc]
    _ = ("#ifndef " ++ guard).toList :: ("#define " ++ guard).toList ::
          Text.filledLines (x ++ ("#endif //" ++ guard).toList) := by
        rw [filledLines_oneLine_append hFirst (toList_append_ne_nil (by decide) _) hb,
          Text.filledLines_breaks_append hbs,
          filledLines_oneLine_append hSecond (toList_append_ne_nil (by decide) _) hb']
    _ = _ := by
        rw [Text.filledLines_append_wholeLines hx hNewline,
          if_neg (toList_append_ne_nil (by decide) _)]

/-- **Guarded texts, character by character.** -/
theorem hasGuard_iff_isGuarded (hGuard : IsGuardName guard) :
    hasGuard text guard = true ↔ IsGuarded guard (Text.trim text.toList) :=
  ⟨isGuarded_of_hasGuard, hasGuard_of_isGuarded hGuard⟩

-- ---------------------------------------------------------------------------
-- Wrapping a body
-- ---------------------------------------------------------------------------

/-- The body between the lines of the guard. -/
def wrapped (guard : String) (body : List Char) : List Char :=
  ("#ifndef " ++ guard ++ "\n#define " ++ guard ++ "\n").toList ++ body ++
    ("\n#endif //" ++ guard).toList

/-- A body of any kind may be wrapped. -/
theorem isGuarded_wrapped (guard : String) (body : List Char) :
    IsGuarded guard (wrapped guard body) := by
  refine ⟨['\n'], [], ['\n'], body ++ ['\n'], Or.inl rfl, by simp, Or.inl rfl, Or.inr (by simp), ?_⟩
  have hDefine : "\n#define ".toList = '\n' :: "#define ".toList := by decide
  have hEndif : "\n#endif //".toList = '\n' :: "#endif //".toList := by decide
  have hNewline : "\n".toList = ['\n'] := by decide
  simp only [wrapped, String.toList_append, hDefine, hEndif, hNewline, List.flatten_nil,
    List.append_assoc, List.cons_append, List.nil_append]

theorem trim_wrapped (hGuard : IsGuardName guard) {before behind : List Char}
    (hBefore : ∀ c ∈ before, Text.isBlank c = true) (hBehind : ∀ c ∈ behind, Text.isBlank c = true)
    (body : List Char) :
    Text.trim (before ++ wrapped guard body ++ behind) = wrapped guard body := by
  rw [Text.trim_eq, trim_append hBefore hBehind, ← Text.trim_eq]
  exact trim_of_isGuarded hGuard (isGuarded_wrapped guard body)

-- ---------------------------------------------------------------------------
-- The rule
-- ---------------------------------------------------------------------------

theorem isGuardName_expectedGuard (names : List String) : IsGuardName (expectedGuard names) :=
  fun _ hc => mem_expectedGuard hc

/-- The rule looks at the guard of a header and at nothing else. -/
theorem checkHeaderGuard_of_header {severity : Severity} {file : SourceFile}
    (hHeader : file.kind = .header) :
    Rule.checkHeaderGuard severity file =
      if hasGuard file.text (expectedGuard file.path.names) then []
      else [Rule.headerGuard.violation severity file 1
        ("Bad or missing guard. Expected " ++ expectedGuard file.path.names ++ ".")] := by
  rw [Rule.checkHeaderGuard]
  by_cases hHas : hasGuard file.text (expectedGuard file.path.names) = true
  · simp [hHas]
  · simp [hHeader, hHas]

/--
**Header guards, exactly.** A text has a guard if and only if, the blanks at
its ends aside, it is the two opening lines, with nothing but line breaks
between them, whole lines of any kind, and the closing line. So a header that
wraps a body of any kind in its guard, with any blanks around, breaks no rule
on guards; and a header that is not of that form is reported once, in line 1.
-/
theorem hasGuard_exact :
    (∀ text guard, IsGuardName guard →
      (hasGuard text guard = true ↔ IsGuarded guard (Text.trim text.toList))) ∧
    ∀ (severity : Severity) (file : SourceFile), file.kind = .header →
      (∀ before body behind : List Char, (∀ c ∈ before, Text.isBlank c = true) →
        (∀ c ∈ behind, Text.isBlank c = true) →
        file.text.toList = before ++ wrapped (expectedGuard file.path.names) body ++ behind →
        Rule.checkHeaderGuard severity file = []) ∧
      (¬ IsGuarded (expectedGuard file.path.names) (Text.trim file.text.toList) →
        Rule.checkHeaderGuard severity file =
          [Rule.headerGuard.violation severity file 1
            ("Bad or missing guard. Expected " ++ expectedGuard file.path.names ++ ".")]) := by
  refine ⟨fun _ _ hGuard => hasGuard_iff_isGuarded hGuard, ?_⟩
  intro severity file hHeader
  have hName := isGuardName_expectedGuard file.path.names
  rw [checkHeaderGuard_of_header hHeader]
  refine ⟨?_, ?_⟩
  · intro before body behind hBefore hBehind hText
    rw [if_pos]
    rw [hasGuard_iff_isGuarded hName, hText, trim_wrapped hName hBefore hBehind]
    exact isGuarded_wrapped _ _
  · intro hNot
    rw [if_neg]
    rwa [hasGuard_iff_isGuarded hName]

/-- A header in its guard, with blanks of three kinds around it and a body that
mixes line breaks. -/
def graphHeader : SourceFile where
  path := ⟨"lib/graph.h"⟩
  kind := .header
  isTest := false
  text := "\u3000\r\n#ifndef LIB_GRAPH_H\n#define LIB_GRAPH_H\n\r\nint x;\n#endif //LIB_GRAPH_H \t"

/-- A header whose closing line does not carry the guard. -/
def openHeader : SourceFile :=
  { graphHeader with text := "#ifndef LIB_GRAPH_H\n#define LIB_GRAPH_H\n#endif\n" }

/-- A header that passes, told by what it wraps, and one that is reported. -/
theorem hasGuard_exact_graphHeader :
    graphHeader.text.toList =
      "\u3000\r\n".toList ++ wrapped (expectedGuard graphHeader.path.names) "\r\nint x;".toList ++
        " \t".toList ∧
    Rule.checkHeaderGuard .error graphHeader = [] ∧
    ¬ IsGuarded (expectedGuard openHeader.path.names) (Text.trim openHeader.text.toList) ∧
    Rule.checkHeaderGuard .error openHeader =
      [Rule.headerGuard.violation .error openHeader 1
        "Bad or missing guard. Expected LIB_GRAPH_H."] := by
  have hText : graphHeader.text.toList =
      "\u3000\r\n".toList ++ wrapped (expectedGuard graphHeader.path.names) "\r\nint x;".toList ++
        " \t".toList := by
    decide +kernel
  have hName : expectedGuard openHeader.path.names = "LIB_GRAPH_H" := by decide +kernel
  have hNot :
      ¬ IsGuarded (expectedGuard openHeader.path.names) (Text.trim openHeader.text.toList) := by
    rw [← hasGuard_exact.1 _ _ (isGuardName_expectedGuard _)]
    decide +kernel
  have hPasses := (hasGuard_exact.2 .error graphHeader rfl).1 _ _ _ (by decide) (by decide) hText
  have hReported := (hasGuard_exact.2 .error openHeader rfl).2 hNot
  rw [hName] at hReported
  exact ⟨hText, hPasses, hNot, hReported⟩

end SourceLint
