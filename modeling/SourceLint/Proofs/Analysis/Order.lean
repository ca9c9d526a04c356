import SourceLint.Proofs.Analysis.Run
import SourceLint.Proofs.Path.Relative

/-!
# The order of a report

Discovered files have relative paths of their own, so the violations of one
file stand together in a report, in the order in which the rules found them.
It does not matter in which order the files are checked, and what is found in
a file is found in that file's text alone: whoever writes another text into a
file changes nothing but what is located in it.

* `sortBy_violations`      — the order of the files does not matter.
* `violations_contiguous`  — the violations of a file stand together.
* `run_write`              — another text in one file.
* `run_ordered`            — the order of a report, and what it depends on.
-/

namespace SourceLint

open FileTree (at? Place)

-- ---------------------------------------------------------------------------
-- Where violations are located
-- ---------------------------------------------------------------------------

/-- Every violation of a rule is located in the file. -/
theorem file_of_mem_check {context : Rule.Context} {file : SourceFile} {r : Rule} {v : Violation}
    (hv : v ∈ Rule.check context file r) : v.location.file = file.path := by
  cases r with
  | headerGuard =>
    rw [Rule.check, Rule.checkHeaderGuard] at hv
    split at hv
    · rw [List.mem_singleton.1 hv]
      rfl
    · cases hv
  | testGroup =>
    rw [Rule.check, Rule.checkTestGroup] at hv
    split at hv
    · obtain ⟨m, -, rfl⟩ := List.mem_map.1 hv
      rfl
    · cases hv
  | systemIncludes =>
    obtain ⟨p, -, rfl⟩ := List.mem_map.1 hv
    rfl
  | lineLength =>
    obtain ⟨p, -, rfl⟩ := List.mem_map.1 hv
    rfl

instance : Std.Total fun v w : Violation => v.location.file.le w.location.file = true where
  total v w := Std.Total.total (r := fun p q : Path => p.le q = true) v.location.file w.location.file

instance : IsTrans Violation fun v w => v.location.file.le w.location.file = true where
  trans u v w := IsTrans.trans (r := fun p q : Path => p.le q = true) u.location.file
    v.location.file w.location.file

namespace Analysis

variable {a : Analysis} {tree : FileTree} {cs : List Candidate} {c : Candidate}

/-- What is found in the file of a candidate. -/
def violationsOf (a : Analysis) (tree : FileTree) (c : Candidate) : List Violation :=
  a.checkFile (a.fileOf tree c)

/-- The path under which the file of a candidate is reported. -/
def reportedPath (a : Analysis) (c : Candidate) : Path :=
  c.path.relativeTo a.root

/-- The paths under which the file at the place is reported. -/
def reportedPaths (a : Analysis) (tree : FileTree) (cs : List Candidate) (place : List String) :
    List Path :=
  (cs.filter fun c => (tree.follow? c.path).map Place.names = some place).map a.reportedPath

theorem file_of_mem_violationsOf {v : Violation} (hv : v ∈ a.violationsOf tree c) :
    v.location.file = a.reportedPath c := by
  rw [violationsOf, checkFile, List.mem_flatMap] at hv
  obtain ⟨r, -, hv⟩ := hv
  exact file_of_mem_check hv

-- ---------------------------------------------------------------------------
-- File by file
-- ---------------------------------------------------------------------------

/-- Discovered files have relative paths of their own. -/
theorem pairwise_reportedPath (hRoot : a.root.isAbsolute = true)
    (hFound : SourceLint.discover tree a.config.scope a.root = .ok cs) :
    cs.Pairwise fun c d => (a.reportedPath c).components ≠ (a.reportedPath d).components := by
  have hNodup := nodup_components_of_discover hFound
  rw [List.Nodup, List.pairwise_map] at hNodup
  refine hNodup.imp_of_mem ?_
  intro c d hc hd hNe hEq
  exact hNe (Path.components_eq_of_relativeTo (isAbsolute_of_mem_discover hRoot hFound hc)
    (isAbsolute_of_mem_discover hRoot hFound hd) hRoot hEq)

/-- The candidates in the order in which their files are reported. -/
def inReportOrder (a : Analysis) (cs : List Candidate) : List Candidate :=
  sortBy (fun c d => (a.reportedPath c).le (a.reportedPath d)) cs

/-- Whatever order the files are checked in, their violations come to stand in
the order of the reported paths. -/
theorem isStableSort_violations (hRoot : a.root.isAbsolute = true)
    (hFound : SourceLint.discover tree a.config.scope a.root = .ok cs) {done : List Candidate}
    (hDone : done.Perm cs) :
    IsStableSort (fun v w => v.location.file.le w.location.file)
      (done.flatMap (a.violationsOf tree)) ((a.inReportOrder cs).flatMap (a.violationsOf tree)) := by
  have hApart : done.Pairwise fun c d => tied Path.le (a.reportedPath c) (a.reportedPath d) = false := by
    have hPaths := hDone.symm.pairwise (pairwise_reportedPath hRoot hFound) fun h => Ne.symm h
    refine hPaths.imp ?_
    intro c d hNe
    rw [Bool.eq_false_iff, ne_eq, tied_iff]
    exact fun hTied => hNe (Path.le_antisymm hTied.1 hTied.2)
  have hSorted : (a.inReportOrder cs).Pairwise fun c d =>
      (a.reportedPath c).le (a.reportedPath d) = true :=
    pairwise_sortBy_key a.reportedPath cs
  exact isStableSort_flatMap (fun c v => file_of_mem_violationsOf)
    ((sortBy_perm cs).trans hDone.symm) hSorted hApart

theorem collect_eq (a : Analysis) (tree : FileTree) (cs : List Candidate) :
    a.collect (cs.map (a.fileOf tree)) =
      sortBy (fun v w => v.location.file.le w.location.file)
        (cs.flatMap (a.violationsOf tree)) := by
  rw [collect, List.flatMap_map]
  rfl

/-- **The order of the files does not matter.** -/
theorem sortBy_violations (hRoot : a.root.isAbsolute = true)
    (hFound : SourceLint.discover tree a.config.scope a.root = .ok cs) {done : List Candidate}
    (hDone : done.Perm cs) :
    sortBy (fun v w => v.location.file.le w.location.file) (done.flatMap (a.violationsOf tree)) =
      (a.inReportOrder cs).flatMap (a.violationsOf tree) :=
  (isStableSort_sortBy _).unique (isStableSort_violations hRoot hFound hDone)

/-- The violations of one file stand together. -/
theorem violations_contiguous (hRoot : a.root.isAbsolute = true)
    (hFound : SourceLint.discover tree a.config.scope a.root = .ok cs) (hc : c ∈ cs) :
    ∃ before after, (a.inReportOrder cs).flatMap (a.violationsOf tree) =
        before ++ a.violationsOf tree c ++ after ∧
      ∀ v ∈ before ++ after, v.location.file.components ≠ (a.reportedPath c).components := by
  have hPerm : (a.inReportOrder cs).Perm cs := sortBy_perm cs
  have hApart := hPerm.symm.pairwise (pairwise_reportedPath hRoot hFound) fun h => Ne.symm h
  obtain ⟨front, back, hSplit⟩ := List.append_of_mem (hPerm.mem_iff.2 hc)
  rw [hSplit] at hApart ⊢
  refine ⟨front.flatMap (a.violationsOf tree), back.flatMap (a.violationsOf tree), by simp, ?_⟩
  intro v hv
  rw [← List.flatMap_append, List.mem_flatMap] at hv
  obtain ⟨d, hd, hv⟩ := hv
  rw [file_of_mem_violationsOf hv]
  rw [List.pairwise_append, List.pairwise_cons] at hApart
  rcases List.mem_append.1 hd with hFront | hBack
  · exact hApart.2.2 d hFront c (List.mem_cons_self ..)
  · exact (hApart.2.1.1 d hBack).symm

-- ---------------------------------------------------------------------------
-- Another text in one file
-- ---------------------------------------------------------------------------

section Write

variable (hTree : tree.WellFormed) {place : List String} {old : ByteArray}
  (hAt : at? place tree = some (.file old)) (text : String)

include hTree hAt

/-- What is discovered stays text. -/
theorem isSome_text?_write
    (hFound : SourceLint.discover tree a.config.scope a.root = .ok cs)
    (hRead : ∀ c ∈ cs, (tree.text? c.path).isSome = true) (hc : c ∈ cs) :
    ((tree.write text.toUTF8 place).text? c.path).isSome = true := by
  by_cases hPlace : (tree.follow? c.path).map Place.names = some place
  · have hWanted := isWanted_of_mem_discover hFound hc
    rw [isWanted, Bool.and_eq_true] at hWanted
    rw [FileTree.text?_write_of_eq hTree hAt text hWanted.1 hPlace]
    rfl
  · rw [FileTree.text?_write_of_ne hTree hAt _ hPlace]
    exact hRead c hc

/-- What is located elsewhere stays. -/
theorem filter_violationsOf_write (hc : c ∈ cs) :
    (a.violationsOf (tree.write text.toUTF8 place) c).filter
        (·.location.file ∉ a.reportedPaths tree cs place) =
      (a.violationsOf tree c).filter (·.location.file ∉ a.reportedPaths tree cs place) := by
  by_cases hPlace : (tree.follow? c.path).map Place.names = some place
  · -- all that is found in the file is located in it, before and after
    have hReported : a.reportedPath c ∈ a.reportedPaths tree cs place :=
      List.mem_map_of_mem (List.mem_filter.2 ⟨hc, by simpa using hPlace⟩)
    have hNone : ∀ t : FileTree, (a.violationsOf t c).filter
        (·.location.file ∉ a.reportedPaths tree cs place) = [] := by
      intro t
      rw [List.filter_eq_nil_iff]
      intro v hv
      rw [file_of_mem_violationsOf hv]
      simpa using hReported
    rw [hNone, hNone]
  · have hFile : a.fileOf (tree.write text.toUTF8 place) c = a.fileOf tree c := by
      rw [fileOf, fileOf, FileTree.text?_write_of_ne hTree hAt _ hPlace]
    rw [violationsOf, violationsOf, hFile]

/-- Whoever writes another text into a file changes only what is located in
it. -/
theorem run_write (hRoot : a.root.isAbsolute = true) {report : Report}
    (hRun : a.run tree = .ok report)
    (hFound : SourceLint.discover tree a.config.scope a.root = .ok cs) :
    ∃ other, a.run (tree.write text.toUTF8 place) = .ok other ∧
      other.filesChecked = report.filesChecked ∧
      other.violations.filter (·.location.file ∉ a.reportedPaths tree cs place) =
        report.violations.filter (·.location.file ∉ a.reportedPaths tree cs place) := by
  obtain ⟨hRule, hHas, ds, hFound', hRead, rfl⟩ := run_eq_ok_iff.1 hRun
  cases hFound.symm.trans hFound'
  have hOutline := FileTree.outline_write hTree hAt text.toUTF8
  have hSame : SourceLint.discover (tree.write text.toUTF8 place) a.config.scope a.root = .ok cs := by
    rw [← discover_outline, hOutline, discover_outline, hFound]
  have hDir : (tree.write text.toUTF8 place).hasDir a.root = tree.hasDir a.root := by
    rw [← FileTree.hasDir_outline, hOutline, FileTree.hasDir_outline]
  have hHas' : a.HasRoot (tree.write text.toUTF8 place) := ⟨hHas.1, hDir.trans hHas.2⟩
  refine ⟨_, run_eq_ok_iff.2 ⟨hRule, hHas', cs, hSame,
    fun c => isSome_text?_write hTree hAt text hFound hRead, rfl⟩, rfl, ?_⟩
  rw [collect_eq, collect_eq, sortBy_violations hRoot hSame (.refl cs),
    sortBy_violations hRoot hFound (.refl cs), List.filter_flatMap, List.filter_flatMap]
  apply List.flatMap_congr
  intro c hc
  exact filter_violationsOf_write hTree hAt text ((sortBy_perm cs).mem_iff.1 hc)

end Write

-- ---------------------------------------------------------------------------
-- The order of a report
-- ---------------------------------------------------------------------------

/-- **A report lists what was found file by file**, whatever order the files
were checked in, and what is found in a file depends on its own text alone. -/
theorem run_ordered (hTree : tree.WellFormed) (hRoot : a.root.isAbsolute = true) {report : Report}
    (hRun : a.run tree = .ok report) :
    ∃ cs, a.discover tree = .ok cs ∧ report.filesChecked = cs.length ∧
      (∀ c ∈ cs, ∃ text, tree.text? c.path = some text ∧
        a.violationsOf tree c =
          ([.headerGuard, .testGroup, .systemIncludes, .lineLength].filter a.applies).flatMap
            (Rule.check a.context (SourceFile.ofPath c.path a.root c.kind text))) ∧
      (∀ done : List Candidate, done.Perm cs →
        sortBy (fun v w => v.location.file.le w.location.file)
            (done.flatMap (a.violationsOf tree)) = report.violations ∧
          IsStableSort (fun v w => v.location.file.le w.location.file)
            (done.flatMap (a.violationsOf tree)) report.violations) ∧
      (∀ c ∈ cs, (∀ v ∈ a.violationsOf tree c, v.location.file = a.reportedPath c) ∧
        ∃ before after, report.violations = before ++ a.violationsOf tree c ++ after ∧
          ∀ v ∈ before ++ after, v.location.file.components ≠ (a.reportedPath c).components) ∧
      ∀ place old, at? place tree = some (.file old) → ∀ text : String,
        ∃ other, a.run (tree.write text.toUTF8 place) = .ok other ∧
          other.filesChecked = report.filesChecked ∧
          other.violations.filter (·.location.file ∉ a.reportedPaths tree cs place) =
            report.violations.filter (·.location.file ∉ a.reportedPaths tree cs place) := by
  obtain ⟨hRule, hHas, cs, hFound, hRead, hReport⟩ := run_eq_ok_iff.1 hRun
  have hViolations : report.violations = (a.inReportOrder cs).flatMap (a.violationsOf tree) := by
    rw [hReport, collect_eq, sortBy_violations hRoot hFound (.refl cs)]
  refine ⟨cs, ?_, by rw [hReport], ?_, ?_, ?_, ?_⟩
  · exact discover_eq_ok_iff.2 hFound
  · intro c hc
    obtain ⟨text, hText⟩ := Option.isSome_iff_exists.1 (hRead c hc)
    refine ⟨text, hText, ?_⟩
    rw [violationsOf, fileOf, hText]
    rfl
  · intro done hDone
    rw [hViolations]
    exact ⟨sortBy_violations hRoot hFound hDone, isStableSort_violations hRoot hFound hDone⟩
  · intro c hc
    rw [hViolations]
    exact ⟨fun v => file_of_mem_violationsOf, violations_contiguous hRoot hFound hc⟩
  · exact fun place old hAt text => run_write hTree hAt text hRoot hRun hFound

/-- Two files with findings. -/
def twoFilesTree : FileTree :=
  .dir [("r", .dir [("a", .dir [("b.cpp", .file "std::map m;".toUTF8)]),
    ("a.h", .file "std::sort s;".toUTF8)])]

def twoFiles : Analysis where
  root := ⟨"/r"⟩

/-- Both files are checked, in either order. -/
theorem run_twoFilesTree :
    ∃ report cs, twoFiles.run twoFilesTree = .ok report ∧ twoFiles.discover twoFilesTree = .ok cs ∧
      report.filesChecked = 2 ∧
      sortBy (fun v w => v.location.file.le w.location.file)
        (cs.reverse.flatMap (twoFiles.violationsOf twoFilesTree)) = report.violations := by
  have hFound : SourceLint.discover twoFilesTree twoFiles.config.scope twoFiles.root =
      .ok [⟨⟨"/r/a/b.cpp"⟩, .source⟩, ⟨⟨"/r/a.h"⟩, .header⟩] := by
    decide +kernel
  have hRun := run_eq_ok_iff.2 ⟨fun name hName => absurd hName.symm (Option.some_ne_none name),
    ⟨by decide, by decide +kernel⟩, _, hFound, by decide +kernel, rfl⟩
  obtain ⟨cs, hOk, hCount, -, hOrder, -⟩ := run_ordered (by decide +kernel) (by decide) hRun
  exact ⟨_, cs, hRun, hOk, rfl, (hOrder _ cs.reverse_perm).1⟩

end Analysis

end SourceLint
