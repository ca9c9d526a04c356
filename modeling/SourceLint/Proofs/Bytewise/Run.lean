import SourceLint.Bytewise.Run
import SourceLint.Proofs.Analysis.Order
import SourceLint.Proofs.Bytewise.Disk

/-!
# Runs over texts are runs over bytes

Where all names and the root spell texts, a run over the bytes does what a run
over the texts does: it discovers the same files (`discover_spelled`) and has
the same report or the same error (`run_spelled`). What bytes add are the trees
and roots that are no texts.

* `discover_spelled`  — the files of a run.
* `run_spelled`       — its report.
-/

namespace SourceLint.Bytewise

-- ---------------------------------------------------------------------------
-- Discovery
-- ---------------------------------------------------------------------------

/-- What is spelled is shown as it was. -/
theorem shown_spelled (p : Path) : shown (spelled p) = p := by
  rw [shown, spelled, lossy_spell]

/-- The candidate with its path in bytes. -/
def spellCandidate (c : Candidate) : Candidate :=
  ⟨spelled c.path, c.kind⟩

theorem components_spellCandidate_eq_iff (c d : Candidate) :
    (spellCandidate c).path.components = (spellCandidate d).path.components ↔
      c.path.components = d.path.components :=
  components_spelled_eq_iff

theorem sourceDir_spelled (root source : Path) :
    sourceDir (spelled root) source = spelled (SourceLint.sourceDir root source) := by
  rw [sourceDir, SourceLint.sourceDir]
  split
  · rfl
  · exact (spelled_join root source).symm

theorem isExcluded_spelled (patterns : List String) (root path : Path) :
    isExcluded patterns (spelled root) (spelled path) =
      SourceLint.isExcluded patterns root path := by
  rw [isExcluded, relativeTo_spelled, shown_spelled, SourceLint.isExcluded]

theorem candidatesIn_spelled (tree : FileTree) (scope : Scope) (root dir : Path)
    (extension : String) (kind : FileKind) :
    candidatesIn (spellTree tree) scope (spelled root) (spelled dir) extension kind =
      (SourceLint.candidatesIn tree scope root dir extension kind).map
        (List.map spellCandidate) := by
  have hWanted : ∀ paths : List Path,
      ((paths.map spelled).filter fun p => hasFile (spellTree tree) p &&
          !isExcluded scope.excludePatterns (spelled root) p) =
        (paths.filter (isWanted tree scope root)).map spelled := by
    intro paths
    rw [List.filter_map]
    refine congrArg (List.map spelled) (List.filter_congr fun p _ => ?_)
    rw [Function.comp_apply, hasFile_spellTree, isExcluded_spelled, isWanted]
  rw [candidatesIn, shown_spelled, Glob.find_map (maps_disk tree), candidatesIn_eq,
    map_map_result, map_map_result]
  congr 1
  funext paths
  simp only [Function.comp_apply, hWanted, List.map_map]
  rfl

theorem candidatesOf_spelled (tree : FileTree) (scope : Scope) (root source : Path) :
    candidatesOf (spellTree tree) scope (spelled root) source =
      (SourceLint.candidatesOf tree scope root source).map (List.map spellCandidate) := by
  rw [candidatesOf, SourceLint.candidatesOf, sourceDir_spelled, hasDir_spellTree]
  split
  · simp only [candidatesIn_spelled, mapM_map_result, map_map_result]
    congr 1
    funext found
    exact List.map_flatten.symm
  · rfl

/-- **The same files are discovered, in the same order.** -/
theorem discover_spelled (tree : FileTree) (scope : Scope) (root : Path) :
    discover (spellTree tree) scope (spelled root) =
      (SourceLint.discover tree scope root).map (List.map spellCandidate) := by
  have hOrder : ∀ found : List Candidate,
      sortBy (fun c d => c.path.le d.path)
          (distinctOn (·.path.components) (found.map spellCandidate)) =
        (sortBy (fun c d => c.path.le d.path) (distinctOn (·.path.components) found)).map
          spellCandidate := by
    intro found
    have hKeys : distinctOn ((·.path.components) ∘ spellCandidate) found =
        distinctOn (·.path.components) found := by
      apply distinctOn_congr
      intro c d
      rw [Function.comp_apply, Function.comp_apply, components_spellCandidate_eq_iff]
    rw [distinctOn_map, hKeys, sortBy_map]
    simp only [spellCandidate, le_spelled]
  have hSources : candidatesOf (spellTree tree) scope (spelled root) = fun source =>
      (SourceLint.candidatesOf tree scope root source).map (List.map spellCandidate) :=
    funext fun source => candidatesOf_spelled tree scope root source
  rw [discover, SourceLint.discover, hSources, mapM_map_result, map_map_result, map_map_result]
  congr 1
  funext found
  rw [Function.comp_apply, Function.comp_apply, ← hOrder, List.map_flatten]

-- ---------------------------------------------------------------------------
-- The run
-- ---------------------------------------------------------------------------

/-- The analysis with its root in bytes. -/
def spellAnalysis (a : Analysis) : Analysis :=
  { a with root := spelled a.root }

@[simp] theorem config_spellAnalysis (a : Analysis) : (spellAnalysis a).config = a.config := rfl

@[simp] theorem only_spellAnalysis (a : Analysis) : (spellAnalysis a).only = a.only := rfl

@[simp] theorem root_spellAnalysis (a : Analysis) : (spellAnalysis a).root = spelled a.root := rfl

/-- What is checked is the file; where the root lies is of no matter. -/
theorem checkFile_spellAnalysis (a : Analysis) (file : SourceFile) :
    (spellAnalysis a).checkFile file = a.checkFile file := rfl

/-- The file with its path in bytes. -/
def withPath (file : SourceFile) : Path × SourceFile :=
  (spelled file.path, file)

theorem precheck_spelled (a : Analysis) (tree : FileTree) :
    precheck (spellAnalysis a) (spellTree tree) = a.precheck tree := by
  have hEmpty : (spelled a.root).text = "" ↔ a.root.text = "" :=
    spell_injective.eq_iff (b := "")
  rw [precheck, Analysis.precheck, only_spellAnalysis, root_spellAnalysis]
  cases a.only.filter fun name => (Rule.ofName? name).isNone with
  | some name => rfl
  | none => simp only [ne_eq, hEmpty, hasDir_spellTree, shown_spelled]

theorem sourceFile_spelled (path root : Path) (kind : FileKind) (text : String) :
    sourceFile (spelled path) (spelled root) kind text = .ofPath path root kind text := by
  have hName : (spelled path).fileName?.bind text? = path.fileName? := by
    rw [fileName?_spelled]
    cases path.fileName? with
    | none => rfl
    | some name => rw [Option.map_some, Option.bind_some, text?_spell]
  rw [sourceFile, SourceFile.ofPath, relativeTo_spelled, shown_spelled, hName]

theorem read_spelled (a : Analysis) (tree : FileTree) (c : Candidate) :
    read (spellAnalysis a) (spellTree tree) (spellCandidate c) = (a.read tree c).map withPath := by
  simp only [read, Analysis.read, root_spellAnalysis, spellCandidate, fileText?_spellTree,
    relativeTo_spelled, sourceFile_spelled, shown_spelled]
  cases tree.text? c.path <;> rfl

/-- The violation behind the bytes of its file. -/
def located (v : Violation) : Path × Violation :=
  (spelled v.location.file, v)

/-- Violations in the order of the bytes of their files are in the order of their
files. -/
theorem collect_spelled (a : Analysis) (files : List SourceFile) :
    collect (spellAnalysis a) (files.map withPath) = a.collect files := by
  have hFile : ∀ file ∈ files, ((spellAnalysis a).checkFile file).map ((spelled file.path, ·)) =
      (a.checkFile file).map located := by
    intro file _
    rw [checkFile_spellAnalysis]
    refine List.map_congr_left fun v hv => ?_
    obtain ⟨r, -, hv⟩ := List.mem_flatMap.1 hv
    rw [located, file_of_mem_check hv]
  have hCollect : collect (spellAnalysis a) (files.map withPath) =
      (sortBy (fun v w => v.1.le w.1) (files.flatMap fun file =>
        ((spellAnalysis a).checkFile file).map ((spelled file.path, ·)))).map (·.2) := by
    rw [collect, List.flatMap_map]
    rfl
  rw [hCollect, List.flatMap_congr hFile, ← List.map_flatMap, sortBy_map, List.map_map,
    Analysis.collect]
  simp only [located, le_spelled]
  exact List.map_id _

/-- **A run over the bytes ends as the run over the texts.** -/
theorem run_spelled (a : Analysis) (tree : FileTree) :
    run (spellAnalysis a) (spellTree tree) = a.run tree := by
  have hDiscover : (discover (spellTree tree) (spellAnalysis a).config.scope
        (spellAnalysis a).root).mapError AnalysisError.ofFailure =
      (a.discover tree).map (List.map spellCandidate) := by
    rw [config_spellAnalysis, root_spellAnalysis, discover_spelled, mapError_map, Analysis.discover]
  have hRead : ∀ candidates : List Candidate,
      (candidates.map spellCandidate).mapM (read (spellAnalysis a) (spellTree tree)) =
        (candidates.mapM (a.read tree)).map (List.map withPath) := by
    intro candidates
    rw [List.mapM_map, ← mapM_map_result]
    apply mapM_congr
    intro c _
    rw [Function.comp_apply, read_spelled]
  rw [run, precheck_spelled, hDiscover, Analysis.run]
  cases a.precheck tree with
  | error e => rfl
  | ok _ =>
    cases a.discover tree with
    | error e => rfl
    | ok candidates =>
      change ((candidates.map spellCandidate).mapM (read (spellAnalysis a) (spellTree tree)) >>=
          fun files => .ok (Report.mk (collect (spellAnalysis a) files)
            (candidates.map spellCandidate).length)) =
        (candidates.mapM (a.read tree) >>= fun files =>
          .ok (Report.mk (a.collect files) candidates.length))
      rw [hRead, List.length_map]
      cases candidates.mapM (a.read tree) with
      | error e => rfl
      | ok files =>
        change Except.ok (Report.mk (collect (spellAnalysis a) (files.map withPath)) _) = _
        rw [collect_spelled]
        rfl

end SourceLint.Bytewise
