import SourceLint.Proofs.Extract.Usage
import SourceLint.Proofs.Rule.HeaderGuard
import SourceLint.Proofs.Rule.SystemIncludes
import SourceLint.Proofs.Rule.TestGroup
import SourceLint.Rule.Check

/-!
# Clean headers — when the rules can be satisfied together

The rules on tests and on includes look for things that need not be in a file.
The other two are opposed: a guard brings long lines. Its longest line is the
closing one, and however a text is laid out around it, the line in which it
stands is no shorter. So a header can satisfy all rules exactly if that line
fits, and then the bare guard does.

* `exists_endif_line`         — a guarded text has the closing line in a line.
* `lines_wrapped_nil`         — the lines of a bare guard.
* `check_bareHeader`          — a bare guard that fits is clean.
* `exists_clean_text_iff`     — both directions.
-/

namespace SourceLint

variable {guard : String} {text : String}

-- ---------------------------------------------------------------------------
-- A guard needs a long line
-- ---------------------------------------------------------------------------

theorem length_directive (lead guard : String) :
    (lead ++ guard).toList.length = lead.length + guard.length := by
  rw [String.toList_append, List.length_append, String.length_toList, String.length_toList]

/-- **The closing line of a guard stands in a line of the text.** -/
theorem exists_endif_line (hGuard : IsGuardName guard) (hHas : hasGuard text guard = true) :
    ∃ l ∈ Text.lines text.toList, ("#endif //" ++ guard).toList <:+: l := by
  have hOne : OneLine ("#endif //" ++ guard).toList := oneLine_directive hGuard (by decide)
  obtain ⟨hNewline, hReturn⟩ := hOne.unbroken
  obtain ⟨b, bs, b', x, -, -, -, -, hTrim⟩ := isGuarded_of_hasGuard hHas
  have hInfix : ("#endif //" ++ guard).toList <:+: Text.trim text.toList := by
    rw [hTrim]
    exact (List.suffix_append _ _).isInfix
  exact Text.exists_line_of_infix (hInfix.trans (Text.trim_isInfix _))
    (toList_append_ne_nil (by decide) _) hNewline hReturn

/-- The lines that are not too long. -/
theorem checkLineLength_eq_nil_iff {max : Nat} {severity : Severity} {file : SourceFile} :
    Rule.checkLineLength max severity file = [] ↔
      ∀ l ∈ Text.lines file.text.toList, l.length ≤ max := by
  have hLines : (Text.numbered (Text.lines file.text.toList)).map Prod.fst =
      Text.lines file.text.toList := by
    rw [Text.numbered_eq_zipIdx, List.zipIdx_map_fst]
  rw [Rule.checkLineLength, List.map_eq_nil_iff, List.filter_eq_nil_iff]
  conv_rhs => rw [← hLines, List.forall_mem_map]
  simp only [decide_eq_true_eq, Nat.not_lt]

-- ---------------------------------------------------------------------------
-- The bare guard
-- ---------------------------------------------------------------------------

/-- The first line of a text, as it was written. -/
theorem lines_oneLine_append {l : List Char} (hl : OneLine l) (rest : List Char) :
    Text.lines (l ++ '\n' :: rest) = l :: Text.lines rest := by
  obtain ⟨hNewline, hReturn⟩ := hl.unbroken
  have hLines := Text.lines_append_break hNewline hReturn (Or.inl rfl) rest
  rwa [List.append_assoc, List.singleton_append] at hLines

theorem lines_wrapped_nil (hGuard : IsGuardName guard) :
    Text.lines (wrapped guard []) =
      [("#ifndef " ++ guard).toList, ("#define " ++ guard).toList, [],
        ("#endif //" ++ guard).toList] := by
  have hIfndef : OneLine ("#ifndef " ++ guard).toList := oneLine_directive hGuard (by decide)
  have hDefine : OneLine ("#define " ++ guard).toList := oneLine_directive hGuard (by decide)
  have hEndif : OneLine ("#endif //" ++ guard).toList := oneLine_directive hGuard (by decide)
  have hText : wrapped guard [] =
      ("#ifndef " ++ guard).toList ++ '\n' :: (("#define " ++ guard).toList ++
        '\n' :: '\n' :: ("#endif //" ++ guard).toList) := by
    have hBreakDefine : "\n#define ".toList = '\n' :: "#define ".toList := by decide
    have hBreakEndif : "\n#endif //".toList = '\n' :: "#endif //".toList := by decide
    have hBreak : "\n".toList = ['\n'] := by decide
    simp only [wrapped, String.toList_append, hBreakDefine, hBreakEndif, hBreak,
      List.append_assoc, List.cons_append, List.nil_append]
  rw [hText, lines_oneLine_append hIfndef, lines_oneLine_append hDefine, Text.lines_newline,
    Text.lines_of_not_mem hEndif.unbroken.1,
    if_neg (toList_append_ne_nil (by decide) _)]

/-- A header that is nothing but its guard. -/
def bareHeader (path : Path) (isTest : Bool) : SourceFile where
  path := path
  kind := .header
  isTest := isTest
  text := String.ofList (wrapped (expectedGuard path.names) [])

variable (path : Path) (isTest : Bool)

theorem lines_bareHeader :
    Text.lines (bareHeader path isTest).text.toList =
      [("#ifndef " ++ expectedGuard path.names).toList,
        ("#define " ++ expectedGuard path.names).toList, [],
        ("#endif //" ++ expectedGuard path.names).toList] := by
  rw [bareHeader, String.toList_ofList, lines_wrapped_nil (isGuardName_expectedGuard path.names)]

/-- What stands neither in the directives nor in a guard stands in no line. -/
theorem not_mem_line_bareHeader {x : Char} (hFixed : x ∉ "#ifndef #define #endif //".toList)
    (hChar : (x.isUpper || x.isDigit || x == '_') = false) :
    ∀ l ∈ Text.lines (bareHeader path isTest).text.toList, x ∉ l := by
  have hNo (lead : String) (hLead : ∀ c ∈ lead.toList, c ∈ "#ifndef #define #endif //".toList) :
      x ∉ (lead ++ expectedGuard path.names).toList := by
    intro hMem
    rw [String.toList_append] at hMem
    rcases List.mem_append.1 hMem with hMem | hMem
    · exact hFixed (hLead x hMem)
    · rw [mem_expectedGuard hMem] at hChar
      exact absurd hChar (by decide)
  rw [lines_bareHeader]
  simp only [List.forall_mem_cons]
  exact ⟨hNo _ (by decide), hNo _ (by decide), List.not_mem_nil, hNo _ (by decide),
    List.forall_mem_nil _⟩

theorem testGroups_bareHeader : testGroups (bareHeader path isTest).text = [] := by
  have hEvery {group : String} {piece : List Char} (hPiece : IsTest group piece) :
      '(' ∈ piece := by
    obtain ⟨-, name, -, rfl⟩ := hPiece
    rw [testCall_eq]
    exact List.mem_append_left _ (by decide)
  exact mentions_eq_nil fun l hl => testMacro_reads.findAll_eq_nil hEvery
    (not_mem_line_bareHeader path isTest (by decide) (by decide) l hl)

theorem includes_bareHeader : includes (bareHeader path isTest).text = [] := by
  have hEvery {h : String} {piece : List Char} (hPiece : IsInclude h piece) : '<' ∈ piece := by
    obtain ⟨-, rfl⟩ := hPiece
    rw [includeDirective_eq]
    exact List.mem_append_left _ (by decide)
  exact mentions_eq_nil fun l hl => systemInclude_reads.findAll_eq_nil hEvery
    (not_mem_line_bareHeader path isTest (by decide) (by decide) l hl)

theorem usages_bareHeader : usages (bareHeader path isTest).text = [] :=
  mentions_eq_nil fun l hl => findAll_qualifiedSymbol_eq_nil
    (not_mem_line_bareHeader path isTest (by decide) (by decide) l hl)

theorem hasGuard_bareHeader :
    hasGuard (bareHeader path isTest).text (expectedGuard path.names) = true := by
  have hGuard := isGuardName_expectedGuard path.names
  have hWrapped := isGuarded_wrapped (expectedGuard path.names) []
  rw [hasGuard_iff_isGuarded hGuard, bareHeader, String.toList_ofList,
    trim_of_isGuarded hGuard hWrapped]
  exact hWrapped

/-- **A bare guard that fits is clean.** -/
theorem check_bareHeader (context : Rule.Context)
    (hFits : (expectedGuard path.names).length + 9 ≤ context.maxLength) (r : Rule) :
    Rule.check context (bareHeader path isTest) r = [] := by
  cases r with
  | headerGuard =>
    rw [Rule.check, checkHeaderGuard_of_header rfl]
    exact if_pos (hasGuard_bareHeader path isTest)
  | testGroup =>
    rw [Rule.check, Rule.checkTestGroup, testGroups_bareHeader]
    exact ite_self _
  | systemIncludes =>
    rw [Rule.check, Rule.checkSystemIncludes, reconcile, usages_bareHeader, includes_bareHeader]
    rfl
  | lineLength =>
    have hIfndef := length_directive "#ifndef " (expectedGuard path.names)
    have hDefine := length_directive "#define " (expectedGuard path.names)
    have hEndif := length_directive "#endif //" (expectedGuard path.names)
    have hLeads : "#ifndef ".length = 8 ∧ "#define ".length = 8 ∧ "#endif //".length = 9 :=
      ⟨rfl, rfl, rfl⟩
    rw [Rule.check, checkLineLength_eq_nil_iff, lines_bareHeader]
    simp only [List.forall_mem_cons, List.length_nil]
    exact ⟨by omega, by omega, by omega, by omega, List.forall_mem_nil _⟩

-- ---------------------------------------------------------------------------
-- All rules together
-- ---------------------------------------------------------------------------

/--
**The rules can be satisfied together exactly if the guard fits.** For every
knowledge, limit and path there is a text that satisfies all rules as a header
with that path if and only if the closing line of its guard is not too long.
-/
theorem exists_clean_text_iff (context : Rule.Context) (path : Path) (isTest : Bool) :
    (∃ text, ∀ r, Rule.check context ⟨path, .header, isTest, text⟩ r = []) ↔
      (expectedGuard path.names).length + 9 ≤ context.maxLength := by
  have hGuard := isGuardName_expectedGuard path.names
  constructor
  · intro hClean
    obtain ⟨text, hAll⟩ := hClean
    have hHas : hasGuard text (expectedGuard path.names) = true := by
      have hPasses := hAll .headerGuard
      rw [Rule.check, checkHeaderGuard_of_header rfl] at hPasses
      by_contra hNot
      rw [if_neg hNot] at hPasses
      exact List.cons_ne_nil _ _ hPasses
    obtain ⟨l, hl, hInfix⟩ := exists_endif_line hGuard hHas
    calc (expectedGuard path.names).length + 9
        = ("#endif //" ++ expectedGuard path.names).toList.length := by
          rw [length_directive, Nat.add_comm]
          rfl
      _ ≤ l.length := hInfix.length_le
      _ ≤ context.maxLength := checkLineLength_eq_nil_iff.1 (hAll .lineLength) l hl
  · intro hFits
    exact ⟨_, check_bareHeader path isTest context hFits⟩

end SourceLint
