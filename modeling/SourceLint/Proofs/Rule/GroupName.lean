import SourceLint.Proofs.FileTree.Names
import SourceLint.Proofs.Rule.Message
import SourceLint.Proofs.Rule.TestGroup

/-!
# Group names — the group of a path, part by part

`expectedGroup` puts the initials of the directories and the file name together
with `_`, where all but letters and digits are written `_` as well, and takes
the whole apart at every `_`. Underscores of all these origins separate words,
and empty words give nothing. So the group can be told without any underscore:

* `pascalCase_intercalate`    — every part gives its own words.
* `pascalCase_plainSpelling`  — the words of a name are its runs.
* `expectedGroup_eq`          — initials first, then the runs of the stem.
* `expectedGroup_exact`       — this, with what follows for the rule.
-/

namespace SourceLint

open FileTree (IsEntryName)

/-- What a directory gives to the group: its first character in upper case, if
that is an ASCII letter or digit. -/
def initialOf (directory : String) : List Char :=
  match directory.toList with
  | [] => []
  | c :: _ => if c.isAlphanum then [c.toUpper] else []

/-- The maximal runs of ASCII letters and digits, from left to right. -/
def alnumRuns (name : List Char) : List (List Char) :=
  (name.splitOnP fun c => !c.isAlphanum).filter (· ≠ [])

-- ---------------------------------------------------------------------------
-- Words
-- ---------------------------------------------------------------------------

theorem ne_underscore_of_isAlphanum {c : Char} (hc : c.isAlphanum = true) : c ≠ '_' := by
  rintro rfl
  exact absurd hc (by decide)

theorem splitUnderscore_cons (c : Char) (cs : List Char) :
    splitUnderscore (c :: cs) =
      if c = '_' then [] :: splitUnderscore cs else (splitUnderscore cs).modifyHead (c :: ·) := by
  rw [splitUnderscore]
  cases hSplit : splitUnderscore cs with
  | nil => exact absurd hSplit (splitUnderscore_ne_nil cs)
  | cons w ws => rfl

theorem splitUnderscore_eq_splitOnP (cs : List Char) :
    splitUnderscore cs = cs.splitOnP (· == '_') := by
  induction cs with
  | nil => rfl
  | cons c cs ih =>
    rw [splitUnderscore_cons, List.splitOnP_cons_eq_if_modifyHead, ih]
    simp only [beq_iff_eq]

/-- An underscore ends a word. -/
theorem pascalCase_append_cons (as bs : List Char) :
    pascalCase (as ++ '_' :: bs) = pascalCase as ++ pascalCase bs := by
  unfold pascalCase
  rw [splitUnderscore_eq_splitOnP, splitUnderscore_eq_splitOnP, splitUnderscore_eq_splitOnP,
    List.splitOnP_append_cons as bs (by decide), List.flatMap_append]

/-- **Every part gives its own words.** -/
theorem pascalCase_intercalate (parts : List (List Char)) :
    pascalCase (['_'].intercalate parts) = parts.flatMap pascalCase := by
  induction parts with
  | nil => rfl
  | cons part parts ih =>
    cases parts with
    | nil => rw [List.intercalate_singleton, List.flatMap_singleton]
    | cons next parts =>
      rw [List.intercalate_cons_cons, List.append_assoc, List.singleton_append,
        pascalCase_append_cons, ih]
      exact List.flatMap_cons.symm

/-- Only underscores stand between the runs of a name once it is spelled
plainly. -/
theorem splitUnderscore_plainSpelling (name : List Char) :
    splitUnderscore (plainSpelling name) = name.splitOnP fun c => !c.isAlphanum := by
  induction name with
  | nil => rfl
  | cons c name ih =>
    show splitUnderscore ((if c.isAlphanum then c else '_') :: plainSpelling name) = _
    rw [splitUnderscore_cons, ih, List.splitOnP_cons_eq_if_modifyHead]
    by_cases hc : c.isAlphanum = true
    · simp [hc, ne_underscore_of_isAlphanum hc]
    · simp [hc]

/-- Empty words give nothing. -/
theorem flatMap_capitalise_filter (words : List (List Char)) :
    (words.filter (· ≠ [])).flatMap capitalise = words.flatMap capitalise := by
  induction words with
  | nil => rfl
  | cons w words ih =>
    by_cases hw : w = []
    · rw [List.filter_cons_of_neg (by simp [hw]), ih, hw]
      rfl
    · rw [List.filter_cons_of_pos (by simp [hw]), List.flatMap_cons, List.flatMap_cons, ih]

/-- **The words of a name are its runs.** -/
theorem pascalCase_plainSpelling (name : List Char) :
    pascalCase (plainSpelling name) = (alnumRuns name).flatMap capitalise := by
  rw [pascalCase, splitUnderscore_plainSpelling, alnumRuns, flatMap_capitalise_filter]

-- ---------------------------------------------------------------------------
-- The group of a path
-- ---------------------------------------------------------------------------

variable {p : Path} {directories names : List String} {name : String}

theorem pascalCase_plainChar (c : Char) :
    pascalCase [if c.isAlphanum then c else '_'] = if c.isAlphanum then [c.toUpper] else [] := by
  by_cases hc : c.isAlphanum = true
  · rw [if_pos hc, if_pos hc, pascalCase, splitUnderscore_cons,
      if_neg (ne_underscore_of_isAlphanum hc)]
    rfl
  · rw [if_neg hc, if_neg hc]
    rfl

/-- The part of a directory gives its initial. -/
theorem flatMap_directoryParts (directories : List String) :
    (directories.filterMap fun d => (plainSpelling d.toList).head?.map ([·])).flatMap pascalCase =
      directories.flatMap initialOf := by
  induction directories with
  | nil => rfl
  | cons d directories ih =>
    rw [List.flatMap_cons, ← ih, List.filterMap_cons]
    unfold initialOf
    cases d.toList with
    | nil => rfl
    | cons c cs =>
      show List.flatMap pascalCase ([if c.isAlphanum then c else '_'] :: _) = _
      rw [List.flatMap_cons, pascalCase_plainChar]

theorem groupParts_of_components
    (hComponents : p.components = (directories ++ [name]).map Path.Component.name) :
    groupParts p =
      directories.filterMap (fun d => (plainSpelling d.toList).head?.map ([·])) ++
        [plainSpelling (Path.stem name.toList)] := by
  have hName : p.fileName? = some name := by
    rw [Path.fileName?, hComponents, List.map_append, List.map_singleton,
      List.getLast?_append_of_ne_nil _ (List.cons_ne_nil _ _)]
    rfl
  have hDirectories : p.directoryNames = directories := by
    rw [Path.directoryNames, hComponents, List.map_append, List.map_singleton,
      List.dropLast_concat, List.filterMap_map]
    exact List.filterMap_some
  rw [groupParts, hName, hDirectories]
  rfl

/-- **Initials first, then the runs of the stem.** -/
theorem expectedGroup_eq
    (hComponents : p.components = (directories ++ [name]).map Path.Component.name) :
    expectedGroup p = String.ofList (directories.flatMap initialOf ++
      (alnumRuns (Path.stem name.toList)).flatMap capitalise) := by
  rw [expectedGroup, pascalCase_intercalate, groupParts_of_components hComponents,
    List.flatMap_append, flatMap_directoryParts, List.flatMap_singleton, pascalCase_plainSpelling]

/-- One more directory in front gives one more initial in front. -/
theorem expectedGroup_join {d : String} (hEntry : IsEntryName d) (hNames : names ≠ [])
    (hComponents : p.components = names.map Path.Component.name) :
    expectedGroup ((⟨d⟩ : Path).join p) = String.ofList (initialOf d) ++ expectedGroup p := by
  have hRoot : Path.Component.root ∉ p.components := by simp [hComponents]
  have hHere : Path.Component.here ∉ p.components := by simp [hComponents]
  obtain ⟨directories, name, rfl⟩ : ∃ directories name, names = directories ++ [name] :=
    ⟨names.dropLast, names.getLast hNames, (List.dropLast_append_getLast hNames).symm⟩
  have hJoined : ((⟨d⟩ : Path).join p).components =
      (d :: directories ++ [name]).map Path.Component.name := by
    rw [components_join_entryName hEntry hRoot hHere, hComponents]
    rfl
  rw [expectedGroup_eq hJoined, expectedGroup_eq hComponents, List.flatMap_cons,
    List.append_assoc, String.ofList_append]

/--
**Group names, exactly.** The group of a path of names is made of the initials
of its directories and the capitalised runs of letters and digits in the stem
of its file name. So a directory in front puts its initial in front, whatever
the path; every group consists of ASCII letters and digits; and a file all of
whose test macros have the group of its path is not reported.
-/
theorem expectedGroup_exact :
    (∀ (p : Path) (directories : List String) (name : String),
      p.components = (directories ++ [name]).map Path.Component.name →
      expectedGroup p = String.ofList (directories.flatMap initialOf ++
        (alnumRuns (Path.stem name.toList)).flatMap capitalise)) ∧
    (∀ (d : String) (p : Path) (names : List String), IsEntryName d → names ≠ [] →
      p.components = names.map Path.Component.name →
      expectedGroup ((⟨d⟩ : Path).join p) = String.ofList (initialOf d) ++ expectedGroup p) ∧
    (∀ (p : Path), ∀ c ∈ (expectedGroup p).toList, c.isAlphanum = true) ∧
    ∀ (severity : Severity) (file : SourceFile),
      (∀ l ∈ Text.lines file.text.toList, ∀ group name, IsWordText group → IsWordText name →
        testCall group name <:+: l → group = expectedGroup file.path) →
      Rule.checkTestGroup severity file = [] := by
  refine ⟨fun _ _ _ => expectedGroup_eq, fun _ _ _ => expectedGroup_join,
    fun _ _ => mem_expectedGroup, ?_⟩
  intro severity file hGroups
  by_cases hTest : file.isTest = true
  · exact (checkTestGroup_eq_nil_iff hTest).2 hGroups
  · exact checkTestGroup_of_not_isTest (by simpa using hTest)

/-- A test in directories of which one gives an initial, with a name that has
underscores in front, a dash, and a dot in its stem. -/
def deepTest : SourceFile where
  path := ⟨"_lib/été/9x/__foo-bar.v2_TEST.cpp"⟩
  kind := .source
  isTest := true
  text := "TEST(9FooBarV2Test, a)\nTEST(9FooBarV2Test, )"

/-- Its group, the group below one more directory, and nothing to report. -/
theorem expectedGroup_exact_deepTest :
    expectedGroup deepTest.path = "9FooBarV2Test" ∧
    expectedGroup ((⟨"src"⟩ : Path).join deepTest.path) = "S9FooBarV2Test" ∧
    Rule.checkTestGroup .error deepTest = [] := by
  obtain ⟨hName, hJoin, -, hPass⟩ := expectedGroup_exact
  have hComponents : deepTest.path.components =
      (["_lib", "été", "9x"] ++ ["__foo-bar.v2_TEST.cpp"]).map Path.Component.name := by
    decide +kernel
  have hParts : (["_lib", "été", "9x"].flatMap initialOf ++
      (alnumRuns (Path.stem "__foo-bar.v2_TEST.cpp".toList)).flatMap capitalise) =
        "9FooBarV2Test".toList := by
    decide +kernel
  have hGroup : expectedGroup deepTest.path = "9FooBarV2Test" := by
    rw [hName _ _ _ hComponents, hParts, String.ofList_toList]
  have hMacros : ∀ l ∈ Text.lines deepTest.text.toList, ∀ g ∈ Text.findAll testMacro l,
      g = "9FooBarV2Test" := by
    decide +kernel
  refine ⟨hGroup, ?_, hPass .error deepTest ?_⟩
  · rw [hJoin "src" _ _ (by decide) (by decide) hComponents, hGroup]
    decide
  · intro l hl group name hWord hName hInfix
    rw [hGroup]
    exact hMacros l hl group ((testMacro_reads.mem_findAll testMacro_findsApart).2
      ⟨_, ⟨hWord, name, hName, rfl⟩, hInfix⟩)

end SourceLint
