import SourceLint.Proofs.Analysis.Load
import SourceLint.Proofs.Analysis.Order
import SourceLint.Proofs.FileTree.Directories
import SourceLint.Proofs.Glob.DirectoryPattern

/-!
# What is left out

A file is left out by its path relative to the root. Where nothing is set, that
is a question of directories: below one that is named `build`, and only there,
files are left out (`isExcluded_standard_iff`).

One more pattern only removes files. Where sources lead down from the root, a
file is found under one path only, whichever sources and extensions reach it.
So it does not matter that patterns are tried before repeated finds are dropped:
discovery finds what it found before, as far as the further pattern does not
describe it (`discover_of_leavesOutMore`), and a run reports of these files what
it reported before (`run_of_leavesOutMore`). What is no pattern describes nothing
and changes nothing.

* `isExcluded_standard_iff`   — the directories that are left out as a rule.
* `discover_of_leavesOutMore` — one more pattern in the settings.
* `run_of_leavesOutMore`      — and in the report.
* `run_exclude`               — one more entry in the list of patterns.
-/

namespace SourceLint

open FileTree (IsEntryName)

variable {tree : FileTree} {scope s t : Scope} {root path : Path} {x n : String}

-- ---------------------------------------------------------------------------
-- Single patterns
-- ---------------------------------------------------------------------------

/-- A file is left out if one of the patterns describes its relative path. -/
theorem isExcluded_eq (patterns : List String) (root path : Path) :
    isExcluded patterns root path = patterns.any (describesFile · (path.relativeTo root)) := rfl

theorem describesFile_of_error {fault : Glob.Fault}
    (h : Glob.Pattern.parse x.toList = .error fault) (file : Path) :
    describesFile x file = false := by
  rw [describesFile, h]

/-- The pattern `**/name/**` describes what lies below a directory of that
name. -/
theorem describesFile_directory_iff (hn : IsEntryName n) {below : List Path.Component}
    (h : path.components = root.components ++ below) :
    describesFile (String.ofList (Glob.directoryText n.toList)) (path.relativeTo root) = true ↔
      .name n ∈ below.dropLast := by
  rw [describesFile, String.toList_ofList, Glob.parse_directoryText,
    Glob.accepts_directoryPattern hn.2.2.2, ← Path.mem_steps_relativeTo_iff hn h, Path.steps]

/-- **Where nothing is set, the directories named `build` are left out**, with
all that is below them. Neither the directories of the root count nor the file's
own name. -/
theorem isExcluded_standard_iff (hNone : scope.exclude = []) {below : List Path.Component}
    (h : path.components = root.components ++ below) :
    isExcluded scope.excludePatterns root path = true ↔ .name "build" ∈ below.dropLast := by
  have hName : IsEntryName "build" := by decide
  have hText : "**/build/**" = String.ofList (Glob.directoryText "build".toList) := by decide
  rw [Scope.excludePatterns, hNone, isExcluded_eq, List.isEmpty_nil, if_pos rfl, List.any_cons,
    List.any_nil, Bool.or_false, hText]
  exact describesFile_directory_iff hName h

/-- The root lies below a directory of that name, which does not count, and a
file is only named like it. -/
theorem isExcluded_standard_build :
    isExcluded ({} : Scope).excludePatterns ⟨"/ci/build/repo"⟩ ⟨"/ci/build//repo/build/a.cpp"⟩ =
        true ∧
      ¬ isExcluded ({} : Scope).excludePatterns ⟨"/ci/build/repo"⟩
        ⟨"/ci/build/repo/my_build/build"⟩ = true := by
  have hBelow : (⟨"/ci/build//repo/build/a.cpp"⟩ : Path).components =
      (⟨"/ci/build/repo"⟩ : Path).components ++ [.name "build", .name "a.cpp"] := by decide
  have hBeside : (⟨"/ci/build/repo/my_build/build"⟩ : Path).components =
      (⟨"/ci/build/repo"⟩ : Path).components ++ [.name "my_build", .name "build"] := by decide
  constructor
  · exact (isExcluded_standard_iff rfl hBelow).2 (by decide)
  · exact fun hExcluded => absurd ((isExcluded_standard_iff rfl hBeside).1 hExcluded) (by decide)

-- ---------------------------------------------------------------------------
-- Where files are found
-- ---------------------------------------------------------------------------

/-- Sources are `.` or lead down by names, and extensions have no slashes. -/
structure Scope.LeadsDown (s : Scope) : Prop where
  source : ∀ source ∈ s.sources, ∃ names, (∀ n ∈ names, IsEntryName n) ∧ source = sourceOf names
  extension : ∀ e ∈ s.headerExtensions ++ s.sourceExtensions, '/' ∉ e.toList

/-- What is found lies where names lead from the root. -/
theorem exists_names_of_mem_found (hTree : tree.WellFormed) (hRoot : root.text ≠ "")
    (hDown : scope.LeadsDown) {found : List (List Candidate)}
    (hFound : scope.sources.mapM (candidatesOf tree scope root) = .ok found) {c : Candidate}
    (hc : c ∈ found.flatten) :
    ∃ names name, (∀ n ∈ names ++ [name], IsEntryName n) ∧
      c.path = (Glob.base root).descend (names ++ [name]) := by
  obtain ⟨source, hSource, -, e, he, list, hList, hc⟩ := exists_of_mem_found hFound hc
  obtain ⟨above, hAbove, rfl⟩ := hDown.source source hSource
  have hSlash := hDown.extension e.1 (fst_mem_of_mem_extensions he)
  obtain ⟨q, -, front, name, hNames, hPath, -⟩ :=
    exists_of_mem_candidatesIn hTree hSlash (text_sourceDir_ne hRoot _) hList hc
  refine ⟨above ++ front, name, ?_, ?_⟩
  · rw [List.append_assoc]
    exact List.forall_mem_append.2 ⟨hAbove, hNames⟩
  · rw [hPath, Glob.base_sourceDir root hAbove, List.append_assoc, Path.descend_append _ above]

/-- Where sources lead down from the root, the components tell the path. -/
theorem path_eq_of_components (hTree : tree.WellFormed) (hRoot : root.text ≠ "")
    (hDown : scope.LeadsDown) {found : List (List Candidate)}
    (hFound : scope.sources.mapM (candidatesOf tree scope root) = .ok found) {c d : Candidate}
    (hc : c ∈ found.flatten) (hd : d ∈ found.flatten)
    (hEq : c.path.components = d.path.components) : c.path = d.path := by
  obtain ⟨names, name, hNames, hPath⟩ := exists_names_of_mem_found hTree hRoot hDown hFound hc
  obtain ⟨others, other, hOthers, hPath'⟩ := exists_names_of_mem_found hTree hRoot hDown hFound hd
  rw [hPath, hPath'] at hEq ⊢
  rw [names_eq_of_components hNames hOthers hEq]

/-- The pattern of a directory describes the files that have it in their relative
path. Where the path does not begin with the root's components, it is relative as
it is. -/
theorem describesFile_directory_of_mem_discover (hTree : tree.WellFormed) (hRoot : root.text ≠ "")
    (hDown : scope.LeadsDown) (hn : IsEntryName n) {cs : List Candidate}
    (hOk : discover tree scope root = .ok cs) {c : Candidate} (hc : c ∈ cs) :
    describesFile (String.ofList (Glob.directoryText n.toList)) (c.path.relativeTo root) =
      decide (n ∈ (c.path.relativeTo root).directoryNames) := by
  rw [Bool.eq_iff_iff, decide_eq_true_eq]
  rcases Path.relativeTo_cases hRoot with ⟨hBelow, -⟩ | ⟨hWhole, -⟩
  · rw [describesFile_directory_iff hn hBelow, Path.mem_directoryNames_iff]
  · obtain ⟨found, hFound, rfl⟩ := discover_eq_ok hOk
    have hMem := (distinctOn_sublist _).subset ((sortBy_perm _).mem_iff.1 hc)
    obtain ⟨names, name, hNames, hPath⟩ := exists_names_of_mem_found hTree hRoot hDown hFound hMem
    have hName : IsEntryName name :=
      hNames name (List.mem_append_right _ (List.mem_singleton_self _))
    have hLast : c.path.steps.getLast? = some name.toList := by
      rw [hPath, Path.descend_append, Path.descend_cons, Path.descend_nil,
        Path.steps_child _ hName.2.2.2, List.getLast?_concat]
    rw [hWhole, describesFile, String.toList_ofList, Glob.parse_directoryText,
      ← Path.mem_steps_iff hn hName hLast]
    exact Glob.accepts_directoryPattern hn.2.2.2 _

-- ---------------------------------------------------------------------------
-- One more pattern
-- ---------------------------------------------------------------------------

/-- The pattern does not describe the relative path of the candidate. -/
def spares (x : String) (root : Path) (c : Candidate) : Bool :=
  !describesFile x (c.path.relativeTo root)

namespace Scope

/-- `t` looks for the same files as `s`, and leaves out what `s` leaves out and
what one more pattern describes. -/
structure LeavesOutMore (s t : Scope) (x : String) : Prop where
  sources    : t.sources = s.sources
  extensions : t.extensions = s.extensions
  patterns   : ∀ p, p ∈ t.excludePatterns ↔ p ∈ s.excludePatterns ∨ p = x

/-- The list of patterns with one more entry, if it was not empty. -/
theorem leavesOutMore_of_exclude {before after : List String} (hList : s.exclude = before ++ after)
    (hNe : s.exclude ≠ []) : s.LeavesOutMore { s with exclude := before ++ x :: after } x where
  sources := rfl
  extensions := rfl
  patterns p := by
    rw [excludePatterns, excludePatterns, if_neg (by simp), if_neg (by simpa using hNe),
      hList, List.mem_append, List.mem_append, List.mem_cons, or_left_comm, or_comm]

end Scope

namespace Scope.LeavesOutMore

variable (h : s.LeavesOutMore t x)

include h

theorem isWanted (tree : FileTree) (root path : Path) :
    SourceLint.isWanted tree t root path =
      (SourceLint.isWanted tree s root path && !describesFile x (path.relativeTo root)) := by
  have hExcluded : isExcluded t.excludePatterns root path =
      (isExcluded s.excludePatterns root path || describesFile x (path.relativeTo root)) := by
    rw [isExcluded_eq, isExcluded_eq, Bool.eq_iff_iff, Bool.or_eq_true, List.any_eq_true,
      List.any_eq_true]
    simp only [h.patterns, or_and_right, exists_or, exists_eq_left]
  rw [SourceLint.isWanted, SourceLint.isWanted, hExcluded, Bool.not_or, Bool.and_assoc]

/-- Of what is found for an extension the pattern removes what it describes. -/
theorem candidatesIn (tree : FileTree) (root dir : Path) (extension : String) (kind : FileKind) :
    SourceLint.candidatesIn tree t root dir extension kind =
      (SourceLint.candidatesIn tree s root dir extension kind).map
        (List.filter (spares x root)) := by
  have hWanted : SourceLint.isWanted tree t root = fun path =>
      SourceLint.isWanted tree s root path && !describesFile x (path.relativeTo root) :=
    funext (h.isWanted tree root)
  rw [candidatesIn_eq, candidatesIn_eq, hWanted]
  cases Glob.find tree.disk (filePattern dir extension) with
  | error fault => rfl
  | ok paths =>
    show Except.ok _ = Except.ok _
    congr 1
    rw [List.filter_map, List.filter_filter]
    simp only [Function.comp_def, spares, Bool.and_comm]

/-- And of what is found for a source. -/
theorem candidatesOf (tree : FileTree) (root source : Path) :
    SourceLint.candidatesOf tree t root source =
      (SourceLint.candidatesOf tree s root source).map
        (List.filter (spares x root)) := by
  rw [SourceLint.candidatesOf, SourceLint.candidatesOf]
  split
  case isFalse => rfl
  case isTrue =>
    simp only [h.candidatesIn, h.extensions]
    rw [mapM_map_result, map_filter_flatten]

end Scope.LeavesOutMore

-- ---------------------------------------------------------------------------
-- Discovery with one more pattern
-- ---------------------------------------------------------------------------

/-- **One more pattern removes what it describes** from what is discovered. -/
theorem discover_of_leavesOutMore (hTree : tree.WellFormed) (hRoot : root.text ≠ "")
    (hDown : s.LeadsDown) (h : s.LeavesOutMore t x) :
    discover tree t root = (discover tree s root).map (List.filter (spares x root)) := by
  have hEach : candidatesOf tree t root = fun source => (candidatesOf tree s root source).map _ :=
    funext (h.candidatesOf tree root)
  rw [discover, discover, hEach, h.sources, mapM_map_result]
  cases hFound : s.sources.mapM (candidatesOf tree s root) with
  | error fault => rfl
  | ok found =>
    have hOnePath : ∀ c ∈ found.flatten, ∀ d ∈ found.flatten,
        c.path.components = d.path.components → spares x root c = spares x root d := by
      intro c hc d hd hEq
      rw [spares, spares, path_eq_of_components hTree hRoot hDown hFound hc hd hEq]
    show Except.ok (sortBy _ (distinctOn _ (found.map _).flatten)) = Except.ok (List.filter _ _)
    rw [← List.filter_flatten, distinctOn_filter hOnePath, filter_sortBy_key]

/-- What is no pattern removes nothing. -/
theorem discover_of_fault (h : s.LeavesOutMore t x) {fault : Glob.Fault}
    (hBad : Glob.Pattern.parse x.toList = .error fault) (tree : FileTree) (root : Path) :
    discover tree t root = discover tree s root := by
  have hEach : candidatesOf tree t root = candidatesOf tree s root := by
    funext source
    rw [h.candidatesOf]
    cases candidatesOf tree s root source with
    | error fault => rfl
    | ok found =>
      have hAll : ∀ c ∈ found, spares x root c = true := fun c _ => by
        rw [spares, describesFile_of_error hBad, Bool.not_false]
      exact congrArg Except.ok (List.filter_eq_self.2 hAll)
  rw [discover, discover, hEach, h.sources]

-- ---------------------------------------------------------------------------
-- Reports with one more pattern
-- ---------------------------------------------------------------------------

/-- The settings with another list of patterns. -/
def Config.withExclude (c : Config) (patterns : List String) : Config :=
  { c with scope := { c.scope with exclude := patterns } }

namespace Analysis

/-- The violations in some of the files are those of all files that are located
there. -/
theorem collect_filter (a : Analysis) (tree : FileTree) (keep : Path → Bool) (cs : List Candidate) :
    a.collect ((cs.filter fun c => keep (a.reportedPath c)).map (a.fileOf tree)) =
      (a.collect (cs.map (a.fileOf tree))).filter fun v => keep v.location.file := by
  have hEach : ∀ c, ∀ v ∈ a.violationsOf tree c, keep v.location.file = keep (a.reportedPath c) :=
    fun c v hv => congrArg keep (file_of_mem_violationsOf hv)
  rw [collect_eq, collect_eq, filter_sortBy, filter_flatMap_of_const hEach]

/-- **A run with one more pattern** reports what is located elsewhere, and checks
so many files fewer as the pattern describes. What it describes may be told in
another way, as far as discovered files go. -/
theorem run_of_leavesOutMore (hTree : tree.WellFormed) {c d : Config} (hDown : c.scope.LeadsDown)
    (hMore : c.scope.LeavesOutMore d.scope x) (hJudge : c.JudgesAlike d) (gone : Path → Bool)
    (hGone : ∀ cs, SourceLint.discover tree c.scope root = .ok cs → ∀ f ∈ cs,
      describesFile x (f.path.relativeTo root) = gone (f.path.relativeTo root))
    (only : Option String) {report : Report}
    (hRun : (⟨root, c, only⟩ : Analysis).run tree = .ok report) :
    ∃ cs rest, (⟨root, c, only⟩ : Analysis).discover tree = .ok cs ∧
      (⟨root, d, only⟩ : Analysis).run tree = .ok rest ∧
      rest.violations = report.violations.filter (fun v => !gone v.location.file) ∧
      rest.filesChecked + cs.countP (fun f => gone (f.path.relativeTo root)) =
        report.filesChecked := by
  obtain ⟨hRule, hHas, cs, hFound, hRead, rfl⟩ := run_eq_ok_iff.1 hRun
  have hLeft : SourceLint.discover tree d.scope root =
      .ok (cs.filter fun f => !gone (f.path.relativeTo root)) := by
    rw [discover_of_leavesOutMore hTree hHas.1 hDown hMore, hFound]
    exact congrArg Except.ok (List.filter_congr fun f hf => congrArg not (hGone cs hFound f hf))
  have hReadLeft : ∀ f ∈ cs.filter fun f => !gone (f.path.relativeTo root),
      (tree.text? f.path).isSome = true := fun f hf => hRead f (List.mem_of_mem_filter hf)
  have hRest : (⟨root, d, only⟩ : Analysis).run tree = .ok _ :=
    run_eq_ok_iff.2 ⟨hRule, hHas, _, hLeft, hReadLeft, rfl⟩
  refine ⟨cs, _, discover_eq_ok_iff.2 hFound, hRest, ?_, ?_⟩
  · rw [collect_of_judgesAlike hJudge]
    exact collect_filter ⟨root, c, only⟩ tree (fun file => !gone file) cs
  · have hCount := List.length_eq_countP_add_countP
      (fun f : Candidate => gone (f.path.relativeTo root)) (l := cs)
    show (cs.filter _).length + _ = cs.length
    rw [hCount, Nat.add_comm, ← List.countP_eq_length_filter]
    simp

/-- **To leave out more is only to remove.** With one more entry anywhere in the
list of patterns a run reports what it reported before, in the same order, but for
the files that the entry describes; an entry that is no pattern changes nothing. -/
theorem run_exclude (hTree : tree.WellFormed) {config : Config} {before after : List String}
    (hList : config.scope.exclude = before ++ after) (hNe : config.scope.exclude ≠ [])
    (hDown : config.scope.LeadsDown) (root : Path) (only : Option String) (x : String) :
    (∀ report, (⟨root, config, only⟩ : Analysis).run tree = .ok report →
      ∃ cs rest, (⟨root, config, only⟩ : Analysis).discover tree = .ok cs ∧
        (⟨root, config.withExclude (before ++ x :: after), only⟩ : Analysis).run tree = .ok rest ∧
        rest.violations = report.violations.filter (fun v => !describesFile x v.location.file) ∧
        rest.filesChecked + cs.countP (fun c => describesFile x (c.path.relativeTo root)) =
          report.filesChecked) ∧
    ∀ fault, Glob.Pattern.parse x.toList = .error fault →
      (⟨root, config.withExclude (before ++ x :: after), only⟩ : Analysis).run tree =
        (⟨root, config, only⟩ : Analysis).run tree := by
  have hMore := Scope.leavesOutMore_of_exclude (x := x) hList hNe
  have hJudge : config.JudgesAlike (config.withExclude (before ++ x :: after)) :=
    ⟨fun _ => rfl, fun _ => rfl, rfl⟩
  refine ⟨fun report => run_of_leavesOutMore hTree hDown hMore hJudge (describesFile x)
    (fun _ _ _ _ => rfl) only, ?_⟩
  intro fault hBad
  have hFound : (⟨root, config.withExclude (before ++ x :: after), only⟩ : Analysis).discover tree =
      (⟨root, config, only⟩ : Analysis).discover tree := by
    rw [discover, discover, Config.withExclude, discover_of_fault hMore hBad]
  rw [run, run, hFound]
  rfl

/-- Two files with findings, one of them in a directory of its own. -/
def generatedTree : FileTree :=
  .dir [("r", .dir [("a.cpp", .file "#include <map>".toUTF8),
    ("gen", .dir [("b.cpp", .file "#include <set>".toUTF8)])])]

/-- Settings by which that directory is searched twice. -/
def generated : Config where
  scope := { sources := [⟨"."⟩, ⟨"gen"⟩], exclude := ["out/*"] }

/-- The pattern `gen/*` takes one of the files away, and `***` is no pattern. -/
theorem run_exclude_generatedTree :
    ∃ report rest, (⟨⟨"/r"⟩, generated, none⟩ : Analysis).run generatedTree = .ok report ∧
      (⟨⟨"/r"⟩, generated.withExclude ["gen/*", "out/*"], none⟩ : Analysis).run generatedTree =
        .ok rest ∧
      report.filesChecked = 2 ∧ rest.filesChecked = 1 ∧
      rest.violations.map (·.location.file) = [⟨"a.cpp"⟩] ∧
      (⟨⟨"/r"⟩, generated.withExclude ["out/*", "***"], none⟩ : Analysis).run generatedTree =
        .ok report := by
  have hDown : generated.scope.LeadsDown := by
    refine ⟨?_, by decide⟩
    rw [generated, List.forall_mem_cons, List.forall_mem_singleton]
    exact ⟨⟨[], by simp, rfl⟩, ⟨["gen"], by decide, by decide⟩⟩
  have hTree : generatedTree.WellFormed := by decide +kernel
  have hFound : SourceLint.discover generatedTree generated.scope ⟨"/r"⟩ =
      .ok [⟨⟨"/r/a.cpp"⟩, .source⟩, ⟨⟨"/r/gen/b.cpp"⟩, .source⟩] := by
    decide +kernel
  have hRun : (⟨⟨"/r"⟩, generated, none⟩ : Analysis).run generatedTree = .ok _ :=
    run_eq_ok_iff.2 ⟨fun name hName => absurd hName.symm (Option.some_ne_none name),
      ⟨by decide, by decide +kernel⟩, _, hFound, by decide +kernel, rfl⟩
  have hFront : generated.scope.exclude = [] ++ ["out/*"] := rfl
  have hBack : generated.scope.exclude = ["out/*"] ++ [] := rfl
  obtain ⟨cs, rest, hFound', hRest, hViolations, hCount⟩ :=
    (run_exclude hTree hFront (by decide) hDown ⟨"/r"⟩ none "gen/*").1 _ hRun
  have hSame := (run_exclude hTree hBack (by decide) hDown ⟨"/r"⟩ none "***").2
    ⟨2, .tooManyStars⟩ rfl
  rw [discover_eq_ok_iff, hFound] at hFound'
  cases hFound'
  refine ⟨_, rest, hRun, hRest, rfl, ?_, ?_, hSame.trans hRun⟩
  · exact Nat.add_right_cancel (hCount.trans (by decide +kernel : 2 = 1 + _))
  · rw [hViolations]
    decide +kernel

end Analysis

end SourceLint
