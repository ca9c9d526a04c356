import SourceLint.Proofs.Analysis.Discovery
import SourceLint.Proofs.Analysis.Run

/-!
# A run does not know where its root lies

The same directory, reached from two roots in two trees, gives the same report
(`run_relocate`). The root enters into the paths of the candidates, and every
use of such a path takes it away again: the order of two candidates, whether
one is left out, and what the rules see of a file depend only on the steps
behind the root. So both runs go through one list of *spots*, each seen from
its own root.

The system does not follow paths beyond a length, and there the length of the
root counts. And the pattern of a search is text, so that nothing is found below
a root that is none (`outcome_outOfReach`).

* `Spot`                — what is discovered, without the root.
* `seenAlike_discover`  — both runs discover the same spots.
* `run_relocate`        — both runs end in the same way.
* `outcome_outOfReach`  — what other roots hide.
-/

namespace SourceLint

open FileTree (Place IsEntryName at? maxPathBytes)

-- ---------------------------------------------------------------------------
-- Kinds of errors
-- ---------------------------------------------------------------------------

/-- An error without what it is about. -/
inductive AnalysisError.Kind where
  | unknownRule
  | rootNotFound
  | badPattern
  | unreadable
  | notText
deriving DecidableEq, Repr

def AnalysisError.kind : AnalysisError → AnalysisError.Kind
  | .unknownRule _ => .unknownRule
  | .rootNotFound _ => .rootNotFound
  | .badPattern _ => .badPattern
  | .unreadable => .unreadable
  | .notText _ => .notText

/-- The kind of error that a search that fails is to a run. -/
def Glob.Failure.kind (failure : Glob.Failure) : AnalysisError.Kind :=
  (AnalysisError.ofFailure failure).kind

-- ---------------------------------------------------------------------------
-- Sources that stay below the root
-- ---------------------------------------------------------------------------

/-- The source leads down from the root, without `..`. -/
structure StaysBelow (source : Path) : Prop where
  relative : source.isAbsolute = false
  down : .up ∉ source.components

/-- The steps from the root to the directory of a source. -/
def sourceSteps (source : Path) : List String :=
  if source.components = [.here] then [] else source.stepNames

theorem tidy_sourceDir_eq {source : Path} (h : source.isAbsolute = false) (root : Path) :
    (sourceDir root source).tidy = root.tidy.descend (sourceSteps source) := by
  rw [sourceDir, sourceSteps]
  split
  · rfl
  · exact Path.tidy_join root h

theorem not_mem_sourceSteps (source : Path) : ∀ n ∈ sourceSteps source, '/' ∉ n.toList := by
  rw [sourceSteps]
  split
  · exact fun n hn => absurd hn List.not_mem_nil
  · exact Path.not_mem_stepNames source

theorem StaysBelow.steps {source : Path} (h : StaysBelow source) : ['.', '.'] ∉ source.steps := by
  intro hMem
  apply h.down
  rw [Path.components, Path.pieces]
  rw [Path.steps] at hMem
  cases hSteps : Path.splitSlash source.text.toList with
  | nil => rw [hSteps] at hMem; cases hMem
  | cons m ms =>
    rw [hSteps, List.mem_cons] at hMem
    rw [List.mem_filterMap]
    rcases hMem with rfl | hMem
    · exact ⟨_, List.mem_cons_self .., rfl⟩
    · exact ⟨_, List.mem_cons_of_mem _ (List.mem_map_of_mem hMem), rfl⟩

/-- What a source leads to from the directory at the root. -/
def sourceTree? (sub : FileTree) (source : Path) : Option FileTree :=
  if source.components = [.here] then some sub
  else (source.steps.foldlM Place.step ⟨sub, []⟩).map (·.here)

/-- What a source leads to depends on nothing but the directory at the root. -/
theorem map_here_sourceDir {source : Path} (h : StaysBelow source) {tree sub : FileTree}
    {root : Path} (hFind : tree.find? root = some sub) :
    (tree.follow? (sourceDir root source)).map (·.here) = sourceTree? sub source := by
  obtain ⟨-, above, hFollow⟩ := FileTree.find?_eq_some_iff.1 hFind
  rw [sourceDir, sourceTree?]
  split
  · rw [hFollow]
    rfl
  · rw [FileTree.follow?_join tree root h.relative, hFollow]
    exact FileTree.map_here_foldlM h.steps above []

-- ---------------------------------------------------------------------------
-- Spots
-- ---------------------------------------------------------------------------

/-- What is discovered from two roots: the steps from the root to a name, which
lead to the same from both. -/
structure Spot (t₁ t₂ : FileTree) (r₁ r₂ : Path) where
  front : List String
  name : String
  kind : FileKind
  slash : ∀ n ∈ front, '/' ∉ n.toList
  entry : IsEntryName name
  same : t₁.find? (r₁.tidy.descend (front ++ [name])) = t₂.find? (r₂.tidy.descend (front ++ [name]))

namespace Spot

variable {t₁ t₂ : FileTree} {r₁ r₂ root : Path}

/-- The candidate that the spot is from a root. -/
def seen (root : Path) (s : Spot t₁ t₂ r₁ r₂) : Candidate :=
  ⟨root.tidy.descend (s.front ++ [s.name]), s.kind⟩

/-- The components behind those of the root. -/
def components (s : Spot t₁ t₂ r₁ r₂) : List Path.Component :=
  s.front.filterMap (fun n => Path.stepComponent? n.toList) ++ [.name s.name]

variable (s : Spot t₁ t₂ r₁ r₂)

theorem slash_append : ∀ n ∈ s.front ++ [s.name], '/' ∉ n.toList := by
  rw [List.forall_mem_append, List.forall_mem_singleton]
  exact ⟨s.slash, s.entry.2.2.2⟩

theorem components_seen (hRoot : root.isAbsolute = true) :
    (s.seen root).path.components = root.components ++ s.components := by
  have hName : [s.name].filterMap (fun n => Path.stepComponent? n.toList) = [.name s.name] := by
    simp [stepComponent?_entryName s.entry]
  have hText := Path.text_ne_of_isAbsolute hRoot
  rw [seen, Path.components_descend (Path.text_tidy_ne hText) s.slash_append,
    Path.components_tidy hText, List.filterMap_append, components, hName]

theorem relativeTo_seen (hRoot : root.isAbsolute = true) :
    (s.seen root).path.relativeTo root = Path.spelled (s.front ++ [s.name]) :=
  Path.relativeTo_descend hRoot s.slash_append

theorem fileName?_seen (hRoot : root.isAbsolute = true) :
    (s.seen root).path.fileName? = some s.name := by
  rw [Path.fileName?, s.components_seen hRoot, components, ← List.append_assoc,
    List.getLast?_concat]
  rfl

theorem le_seen (hRoot : root.isAbsolute = true) (s' : Spot t₁ t₂ r₁ r₂) :
    (s.seen root).path.le (s'.seen root).path = (compare s.components s'.components).isLE := by
  rw [Path.le, s.components_seen hRoot, s'.components_seen hRoot, Path.compare_append_left]

/-- The candidates are told apart, and ordered, by what lies behind the root. -/
theorem sortBy_distinctOn_seen (hRoot : root.isAbsolute = true)
    (spots : List (Spot t₁ t₂ r₁ r₂)) :
    sortBy (fun a b => a.path.le b.path) (distinctOn (·.path.components) (spots.map (seen root))) =
      (sortBy (fun s s' => (compare s.components s'.components).isLE)
        (distinctOn components spots)).map (seen root) := by
  have hKey : ∀ s s' : Spot t₁ t₂ r₁ r₂,
      ((·.path.components) ∘ seen root) s = ((·.path.components) ∘ seen root) s' ↔
        s.components = s'.components := by
    intro s s'
    rw [Function.comp_apply, Function.comp_apply, s.components_seen hRoot,
      s'.components_seen hRoot, List.append_cancel_left_eq]
  have hLe : (fun s s' : Spot t₁ t₂ r₁ r₂ => (s.seen root).path.le (s'.seen root).path) =
      fun s s' => (compare s.components s'.components).isLE :=
    funext₂ fun s s' => s.le_seen hRoot s'
  rw [distinctOn_map, distinctOn_congr hKey, sortBy_map, hLe]

/-- The text that the spot leads to from the first root. -/
def text? : Option String :=
  t₁.text? (s.seen r₁).path

theorem text?_seen : t₂.text? (s.seen r₂).path = s.text? := by
  rw [text?, FileTree.text?, FileTree.text?, FileTree.bytes?, FileTree.bytes?, seen, seen, s.same]

theorem isWanted_seen {scope : Scope} (h₁ : r₁.isAbsolute = true) (h₂ : r₂.isAbsolute = true) :
    isWanted t₁ scope r₁ (s.seen r₁).path = isWanted t₂ scope r₂ (s.seen r₂).path := by
  rw [isWanted, isWanted, isExcluded, isExcluded, s.relativeTo_seen h₁, s.relativeTo_seen h₂,
    FileTree.hasFile, FileTree.hasFile, seen, seen, s.same]

/-- What the rules see of the spot. -/
def file : SourceFile where
  path := Path.spelled (s.front ++ [s.name])
  kind := s.kind
  isTest := SourceFile.isTestName s.name
  text := s.text?.getD ""

theorem ofPath_seen (hRoot : root.isAbsolute = true) :
    SourceFile.ofPath (s.seen root).path root (s.seen root).kind (s.text?.getD "") = s.file := by
  rw [SourceFile.ofPath, s.relativeTo_seen hRoot, s.fileName?_seen hRoot]
  rfl

end Spot

/-- What lies below a source, and is the same from both roots, is a spot. -/
theorem exists_spot {t₁ t₂ : FileTree} {r₁ r₂ source : Path} (hSource : source.isAbsolute = false)
    {names : List String} (hNe : names ≠ []) (hNames : ∀ n ∈ names, IsEntryName n)
    (hSame : t₁.find? ((sourceDir r₁ source).tidy.descend names) =
      t₂.find? ((sourceDir r₂ source).tidy.descend names)) (kind : FileKind) :
    ∃ s : Spot t₁ t₂ r₁ r₂,
      (⟨(sourceDir r₁ source).tidy.descend names, kind⟩ : Candidate) = s.seen r₁ ∧
        (⟨(sourceDir r₂ source).tidy.descend names, kind⟩ : Candidate) = s.seen r₂ := by
  obtain ⟨front, name, rfl⟩ : ∃ front name, names = front ++ [name] :=
    ⟨_, _, (List.dropLast_append_getLast hNe).symm⟩
  have hPath : ∀ root : Path, (sourceDir root source).tidy.descend (front ++ [name]) =
      root.tidy.descend ((sourceSteps source ++ front) ++ [name]) := by
    intro root
    rw [tidy_sourceDir_eq hSource, List.append_assoc, Path.descend_append root.tidy]
  rw [hPath, hPath] at hSame
  obtain ⟨hFront, hName⟩ := List.forall_mem_append.1 hNames
  have hSlash : ∀ n ∈ sourceSteps source ++ front, '/' ∉ n.toList :=
    List.forall_mem_append.2 ⟨not_mem_sourceSteps source, fun n hn => (hFront n hn).2.2.2⟩
  refine ⟨⟨_, name, kind, hSlash, List.forall_mem_singleton.1 hName, hSame⟩, ?_, ?_⟩
  · rw [hPath]; rfl
  · rw [hPath]; rfl

-- ---------------------------------------------------------------------------
-- Both runs discover the same spots
-- ---------------------------------------------------------------------------

/-- The tree `sub` lies at an absolute root. -/
structure Placed (sub tree : FileTree) (root : Path) : Prop where
  wellFormed : tree.WellFormed
  absolute : root.isAbsolute = true
  found : tree.find? root = some sub

/-- The system takes the paths of a source, and of what lies below it, from both
roots or from neither. -/
def Scope.FitsAlike (s : Scope) (sub : FileTree) (r₁ r₂ : Path) : Prop :=
  ∀ source ∈ s.sources, ∀ dir, sourceTree? sub source = some dir →
    ((sourceDir r₁ source).text.utf8ByteSize ≤ maxPathBytes ↔
      (sourceDir r₂ source).text.utf8ByteSize ≤ maxPathBytes) ∧
    ∀ x ∈ dir.listing,
      ((sourceDir r₁ source).tidy.descend x.1).text.utf8ByteSize ≤ maxPathBytes ↔
        ((sourceDir r₂ source).tidy.descend x.1).text.utf8ByteSize ≤ maxPathBytes

namespace Placed

variable {sub tree dir : FileTree} {root source : Path} (h : Placed sub tree root)

include h

theorem find?_sourceDir (hSource : StaysBelow source) :
    tree.find? (sourceDir root source) =
      if (sourceDir root source).text.utf8ByteSize ≤ maxPathBytes
        then sourceTree? sub source else none := by
  rw [FileTree.find?_eq, map_here_sourceDir hSource h.found]

theorem sourceTree?_eq (hSource : StaysBelow source)
    (hDir : tree.find? (sourceDir root source) = some dir) : sourceTree? sub source = some dir := by
  rw [h.find?_sourceDir hSource] at hDir
  exact (Option.ite_none_right_eq_some.1 hDir).2

theorem find?_descend (hDir : tree.find? (sourceDir root source) = some dir)
    {x : List String × FileTree} (hx : x ∈ dir.listing) :
    tree.find? ((sourceDir root source).tidy.descend x.1) =
      if ((sourceDir root source).tidy.descend x.1).text.utf8ByteSize ≤ maxPathBytes
        then at? x.1 dir else none := by
  have hWell := h.wellFormed.find? hDir
  have hNames := (hWell.at? ((FileTree.mem_listing hWell).1 hx).2).2
  exact FileTree.find?_descend hNames (FileTree.find?_tidy hDir)

end Placed

/-- The same spots are seen from both roots, or none for the same kind of
reason. -/
def SeenAlike (t₁ t₂ : FileTree) (r₁ r₂ : Path) (x y : Except Glob.Failure (List Candidate)) :
    Prop :=
  ∃ spots : Except AnalysisError.Kind (List (Spot t₁ t₂ r₁ r₂)),
    x.mapError Glob.Failure.kind = spots.map (List.map (Spot.seen r₁)) ∧
      y.mapError Glob.Failure.kind = spots.map (List.map (Spot.seen r₂))

section Both

variable {t₁ t₂ sub : FileTree} {r₁ r₂ source : Path} {scope : Scope}

/-- Spots that are gone through in one way are seen alike afterwards. -/
theorem SeenAlike.map {x y : Except Glob.Failure (List Candidate)}
    (h : SeenAlike t₁ t₂ r₁ r₂ x y) {f : List Candidate → List Candidate}
    {g : List (Spot t₁ t₂ r₁ r₂) → List (Spot t₁ t₂ r₁ r₂)}
    (h₁ : ∀ spots, f (spots.map (Spot.seen r₁)) = (g spots).map (Spot.seen r₁))
    (h₂ : ∀ spots, f (spots.map (Spot.seen r₂)) = (g spots).map (Spot.seen r₂)) :
    SeenAlike t₁ t₂ r₁ r₂ (x.map f) (y.map f) := by
  obtain ⟨spots, hx, hy⟩ := h
  refine ⟨spots.map g, ?_, ?_⟩
  · rw [mapError_map, hx, map_map_result, map_map_result]
    exact congrArg (Except.map · spots) (funext h₁)
  · rw [mapError_map, hy, map_map_result, map_map_result]
    exact congrArg (Except.map · spots) (funext h₂)

theorem SeenAlike.flatten {α : Type} {as : List α}
    {f₁ f₂ : α → Except Glob.Failure (List Candidate)}
    (h : ∀ a ∈ as, SeenAlike t₁ t₂ r₁ r₂ (f₁ a) (f₂ a)) :
    SeenAlike t₁ t₂ r₁ r₂ ((as.mapM f₁).map List.flatten) ((as.mapM f₂).map List.flatten) := by
  obtain ⟨spots, h₁, h₂⟩ := exists_mapM_map h
  have hFlatten : ∀ root : Path, List.flatten ∘ List.map (List.map (Spot.seen root)) =
      List.map (@Spot.seen t₁ t₂ r₁ r₂ root) ∘ List.flatten :=
    fun root => funext fun lists => List.map_flatten.symm
  refine ⟨spots.map List.flatten, ?_, ?_⟩
  · rw [mapError_map, mapError_mapM, h₁, map_map_result, map_map_result, hFlatten]
  · rw [mapError_map, mapError_mapM, h₂, map_map_result, map_map_result, hFlatten]

variable (h₁ : Placed sub t₁ r₁) (h₂ : Placed sub t₂ r₂) (hFits : scope.FitsAlike sub r₁ r₂)

include h₁ h₂ hFits

section Directory

variable (hMem : source ∈ scope.sources) (hSource : StaysBelow source) {dir : FileTree}
  (hDir₁ : t₁.find? (sourceDir r₁ source) = some dir)
  (hDir₂ : t₂.find? (sourceDir r₂ source) = some dir)

include hMem hSource hDir₁ hDir₂

/-- Each thing below the directory is a spot. -/
theorem exists_spot_of_mem_listing (kind : FileKind) {x : List String × FileTree}
    (hx : x ∈ dir.listing) :
    ∃ s : Spot t₁ t₂ r₁ r₂,
      (⟨(sourceDir r₁ source).tidy.descend x.1, kind⟩ : Candidate) = s.seen r₁ ∧
        (⟨(sourceDir r₂ source).tidy.descend x.1, kind⟩ : Candidate) = s.seen r₂ := by
  have hWell := h₁.wellFormed.find? hDir₁
  obtain ⟨hNe, hAt⟩ := (FileTree.mem_listing hWell).1 hx
  have hBelow := (hFits source hMem dir (h₁.sourceTree?_eq hSource hDir₁)).2 x hx
  refine exists_spot hSource.relative hNe (hWell.at? hAt).2 ?_ kind
  rw [h₁.find?_descend hDir₁ hx, h₂.find?_descend hDir₂ hx, if_congr hBelow rfl rfl]

theorem isWanted_eq_of_mem_listing {x : List String × FileTree} (hx : x ∈ dir.listing) :
    isWanted t₁ scope r₁ ((sourceDir r₁ source).tidy.descend x.1) =
      isWanted t₂ scope r₂ ((sourceDir r₂ source).tidy.descend x.1) := by
  obtain ⟨s, hs₁, hs₂⟩ :=
    exists_spot_of_mem_listing h₁ h₂ hFits hMem hSource hDir₁ hDir₂ .source hx
  have hPath₁ : (sourceDir r₁ source).tidy.descend x.1 = (s.seen r₁).path :=
    congrArg Candidate.path hs₁
  have hPath₂ : (sourceDir r₂ source).tidy.descend x.1 = (s.seen r₂).path :=
    congrArg Candidate.path hs₂
  rw [hPath₁, hPath₂]
  exact s.isWanted_seen h₁.absolute h₂.absolute

omit h₂ hDir₂ in
/-- The directories below can be read from both roots or from neither. -/
theorem fitsBelow_eq :
    dir.fitsBelow (sourceDir r₁ source).tidy = dir.fitsBelow (sourceDir r₂ source).tidy := by
  have hBelow := (hFits source hMem dir (h₁.sourceTree?_eq hSource hDir₁)).2
  rw [Bool.eq_iff_iff, FileTree.fitsBelow_iff, FileTree.fitsBelow_iff]
  exact forall₂_congr fun x hx => imp_congr_right fun _ => hBelow x hx

/-- Below one directory the same spots are found for an extension. -/
theorem seenAlike_candidatesIn {extension : String} (hSlash : '/' ∉ extension.toList)
    (kind : FileKind) :
    SeenAlike t₁ t₂ r₁ r₂ (candidatesIn t₁ scope r₁ (sourceDir r₁ source) extension kind)
      (candidatesIn t₂ scope r₂ (sourceDir r₂ source) extension kind) := by
  have hAbs₁ := isAbsolute_sourceDir h₁.absolute source
  have hAbs₂ := isAbsolute_sourceDir h₂.absolute source
  cases hq : Glob.extensionPattern? extension with
  | none =>
    obtain ⟨fault₁, hBad₁⟩ := candidatesIn_of_no_pattern hSlash (Path.text_ne_of_isAbsolute hAbs₁)
      hq t₁ scope r₁ kind
    obtain ⟨fault₂, hBad₂⟩ := candidatesIn_of_no_pattern hSlash (Path.text_ne_of_isAbsolute hAbs₂)
      hq t₂ scope r₂ kind
    rw [hBad₁, hBad₂]
    exact ⟨.error .badPattern, rfl, rfl⟩
  | some q =>
    have hFilter : (dir.listing.filter fun x => q.accepts (x.1.getLast?.getD "").toList &&
        isWanted t₁ scope r₁ ((sourceDir r₁ source).tidy.descend x.1)) =
          dir.listing.filter fun x => q.accepts (x.1.getLast?.getD "").toList &&
            isWanted t₂ scope r₂ ((sourceDir r₂ source).tidy.descend x.1) :=
      List.filter_congr fun x hx => by
        rw [isWanted_eq_of_mem_listing h₁ h₂ hFits hMem hSource hDir₁ hDir₂ hx]
    obtain ⟨spots, hSpots₁, hSpots₂⟩ := exists_map_map fun x hx =>
      exists_spot_of_mem_listing h₁ h₂ hFits hMem hSource hDir₁ hDir₂ kind
        (List.mem_of_mem_filter hx)
    rw [candidatesIn_filePattern h₁.wellFormed hSlash hAbs₁ hDir₁ hq,
      candidatesIn_filePattern h₂.wellFormed hSlash hAbs₂ hDir₂ hq,
      fitsBelow_eq h₁ hFits hMem hSource hDir₁, hFilter]
    split
    · exact ⟨.ok spots, congrArg Except.ok hSpots₁, congrArg Except.ok hSpots₂⟩
    · exact ⟨.error .unreadable, rfl, rfl⟩

end Directory

/-- The same spots are found for a source. -/
theorem seenAlike_candidatesOf (hMem : source ∈ scope.sources) (hSource : StaysBelow source)
    (hSlash : ∀ e ∈ scope.headerExtensions ++ scope.sourceExtensions, '/' ∉ e.toList) :
    SeenAlike t₁ t₂ r₁ r₂ (candidatesOf t₁ scope r₁ source) (candidatesOf t₂ scope r₂ source) := by
  have hSame : t₁.find? (sourceDir r₁ source) = t₂.find? (sourceDir r₂ source) := by
    rw [h₁.find?_sourceDir hSource, h₂.find?_sourceDir hSource]
    cases hDir : sourceTree? sub source with
    | none => rw [ite_self, ite_self]
    | some dir => exact if_congr (hFits source hMem dir hDir).1 rfl rfl
  have hDirs : t₁.hasDir (sourceDir r₁ source) = t₂.hasDir (sourceDir r₂ source) := by
    rw [FileTree.hasDir, FileTree.hasDir, hSame]
  rw [candidatesOf, candidatesOf, ← hDirs]
  split
  case isFalse => exact ⟨.ok [], rfl, rfl⟩
  case isTrue hDir =>
    obtain ⟨entries, hDir₁⟩ := FileTree.hasDir_iff.1 hDir
    exact SeenAlike.flatten fun e he =>
      seenAlike_candidatesIn h₁ h₂ hFits hMem hSource hDir₁ (hSame.symm.trans hDir₁)
        (hSlash _ (fst_mem_of_mem_extensions he)) e.2

/-- **Both runs discover the same spots.** -/
theorem seenAlike_discover (hSources : ∀ source ∈ scope.sources, StaysBelow source)
    (hSlash : ∀ e ∈ scope.headerExtensions ++ scope.sourceExtensions, '/' ∉ e.toList) :
    SeenAlike t₁ t₂ r₁ r₂ (discover t₁ scope r₁) (discover t₂ scope r₂) := by
  have hEach := SeenAlike.flatten fun source hMem =>
    seenAlike_candidatesOf h₁ h₂ hFits hMem (hSources source hMem) hSlash
  have hSorted := hEach.map (f := fun found =>
      sortBy (fun a b => a.path.le b.path) (distinctOn (·.path.components) found))
    (Spot.sortBy_distinctOn_seen h₁.absolute) (Spot.sortBy_distinctOn_seen h₂.absolute)
  rw [map_map_result, map_map_result] at hSorted
  exact hSorted

end Both

-- ---------------------------------------------------------------------------
-- What the runs say
-- ---------------------------------------------------------------------------

namespace Analysis

/-- The report of the run, or the kind of its error. -/
def outcome (a : Analysis) (tree : FileTree) : Except AnalysisError.Kind Report :=
  (a.run tree).mapError AnalysisError.kind

variable {a : Analysis} {tree : FileTree}

theorem outcome_of_not_knowsRule (h : ¬ a.KnowsRule) : a.outcome tree = .error .unknownRule := by
  rcases a.precheck_spec tree with ⟨name, -, -, hStop⟩ | ⟨hRule, -⟩ | ⟨hRule, -⟩
  · rw [outcome, run_of_check hStop]
    rfl
  · exact absurd hRule h
  · exact absurd hRule h

theorem precheck_eq_ok (hRule : a.KnowsRule) (hRoot : a.HasRoot tree) :
    a.precheck tree = .ok () := by
  rcases a.precheck_spec tree with ⟨name, hOnly, hNone, -⟩ | ⟨-, hMissing, -⟩ | ⟨-, -, hGo⟩
  · exact absurd hRule (not_knowsRule hOnly hNone)
  · exact absurd hRoot hMissing
  · exact hGo

section Spots

variable {t₁ t₂ : FileTree} {r₁ r₂ : Path}

/-- What a run reads at a spot. -/
def readSpot (s : Spot t₁ t₂ r₁ r₂) : Except AnalysisError.Kind SourceFile :=
  if s.text?.isSome then .ok s.file else .error .notText

theorem mapError_read {s : Spot t₁ t₂ r₁ r₂} (hRoot : a.root.isAbsolute = true)
    (hText : tree.text? (s.seen a.root).path = s.text?) :
    (a.read tree (s.seen a.root)).mapError AnalysisError.kind = readSpot s := by
  rw [readSpot, ← s.ofPath_seen hRoot, ← hText]
  rcases a.read_spec tree (s.seen a.root) with ⟨text, hSome, hRead⟩ | ⟨hNone, hRead⟩
  · rw [hRead, hSome, fileOf, hSome]
    rfl
  · rw [hRead, hNone]
    rfl

/-- From either root a run reads the spots. -/
theorem outcome_of_spots {spots : List (Spot t₁ t₂ r₁ r₂)} (hRoot : a.root.isAbsolute = true)
    (hCheck : a.precheck tree = .ok ())
    (hFound : (SourceLint.discover tree a.config.scope a.root).mapError Glob.Failure.kind =
      .ok (spots.map (Spot.seen a.root)))
    (hText : ∀ s : Spot t₁ t₂ r₁ r₂, tree.text? (s.seen a.root).path = s.text?) :
    a.outcome tree =
      (spots.mapM readSpot).map fun files => ⟨a.collect files, spots.length⟩ := by
  have hOk : SourceLint.discover tree a.config.scope a.root =
      .ok (spots.map (Spot.seen a.root)) := by
    cases hCases : SourceLint.discover tree a.config.scope a.root with
    | error failure => rw [hCases] at hFound; cases hFound
    | ok cs => rw [hCases] at hFound; exact congrArg _ (Except.ok.inj hFound)
  have hRead : ((spots.map (Spot.seen a.root)).mapM (a.read tree)).mapError AnalysisError.kind =
      spots.mapM readSpot := by
    rw [List.mapM_map, mapError_mapM]
    exact mapM_congr fun s _ => mapError_read hRoot (hText s)
  rw [outcome, run_of_discover hCheck hOk, List.length_map, ← hRead]
  cases (spots.map (Spot.seen a.root)).mapM (a.read tree) <;> rfl

end Spots

/-- Where the search fails, a run does not come to read. -/
theorem outcome_of_failure {kind : AnalysisError.Kind} (hCheck : a.precheck tree = .ok ())
    (hFound : (SourceLint.discover tree a.config.scope a.root).mapError Glob.Failure.kind =
      .error kind) :
    a.outcome tree = .error kind := by
  cases hCases : SourceLint.discover tree a.config.scope a.root with
  | error failure =>
    rw [hCases] at hFound
    cases hFound
    rw [outcome, run_of_failure hCheck hCases]
    rfl
  | ok cs => rw [hCases] at hFound; cases hFound

/-- **The same directory gives the same report from any root.** -/
theorem run_relocate {config : Config} {only : Option String} {t₁ t₂ : FileTree} {r₁ r₂ : Path}
    {entries : List (String × FileTree)} (h₁ : Placed (.dir entries) t₁ r₁)
    (h₂ : Placed (.dir entries) t₂ r₂) (hFits : config.scope.FitsAlike (.dir entries) r₁ r₂)
    (hSources : ∀ source ∈ config.scope.sources, StaysBelow source)
    (hSlash : ∀ e ∈ config.scope.headerExtensions ++ config.scope.sourceExtensions,
      '/' ∉ e.toList) :
    outcome ⟨r₁, config, only⟩ t₁ = outcome ⟨r₂, config, only⟩ t₂ := by
  by_cases hRule : KnowsRule ⟨r₁, config, only⟩
  case neg =>
    have hRule₂ : ¬ KnowsRule ⟨r₂, config, only⟩ := hRule
    rw [outcome_of_not_knowsRule hRule, outcome_of_not_knowsRule hRule₂]
  case pos =>
    have hRule₂ : KnowsRule ⟨r₂, config, only⟩ := hRule
    have hRoot : ∀ {tree root}, Placed (.dir entries) tree root →
        HasRoot ⟨root, config, only⟩ tree := fun h =>
      ⟨Path.text_ne_of_isAbsolute h.absolute, FileTree.hasDir_iff.2 ⟨entries, h.found⟩⟩
    have hCheck₁ := precheck_eq_ok hRule (hRoot h₁)
    have hCheck₂ := precheck_eq_ok hRule₂ (hRoot h₂)
    obtain ⟨spots, hFound₁, hFound₂⟩ := seenAlike_discover h₁ h₂ hFits hSources hSlash
    cases spots with
    | error kind => rw [outcome_of_failure hCheck₁ hFound₁, outcome_of_failure hCheck₂ hFound₂]
    | ok spots =>
      rw [outcome_of_spots h₁.absolute hCheck₁ hFound₁ fun s => rfl,
        outcome_of_spots h₂.absolute hCheck₂ hFound₂ fun s => s.text?_seen]
      -- what a run collects from the files does not depend on its root
      rfl

/-- A directory to check, with a file that is left out. -/
def checkedEntries : List (String × FileTree) :=
  [("a.cpp", .file "std::map m;".toUTF8), ("build", .dir [("b.cpp", .file ⟨#[0xff]⟩)])]

theorem fitsAlike_checked :
    ({} : Scope).FitsAlike (.dir checkedEntries) ⟨"/r"⟩ ⟨"/build//[*]/."⟩ := by
  intro source hSource dir hDir
  cases List.mem_singleton.1 hSource
  have hTree : sourceTree? (.dir checkedEntries) ⟨"."⟩ = some (.dir checkedEntries) :=
    if_pos (by decide)
  cases hTree.symm.trans hDir
  exact ⟨by decide +kernel, by decide +kernel⟩

/-- A build directory above the root, a name like a pattern and idle slashes do
not matter. -/
theorem outcome_below_build :
    outcome { root := ⟨"/r"⟩ } (.dir [("r", .dir checkedEntries)]) =
      outcome { root := ⟨"/build//[*]/."⟩ }
        (.dir [("build", .dir [("[*]", .dir checkedEntries)])]) :=
  run_relocate ⟨by decide +kernel, by decide, rfl⟩ ⟨by decide +kernel, by decide, rfl⟩
    fitsAlike_checked (List.forall_mem_singleton.2 ⟨by decide, by decide⟩) (by decide)

theorem run_of_outcome {report : Report} (h : a.outcome tree = .ok report) :
    a.run tree = .ok report := by
  rw [outcome] at h
  cases hRun : a.run tree with
  | error e => rw [hRun] at h; cases h
  | ok found => rw [hRun] at h; cases h; rfl

theorem outcome_of_discover_nil {root : Path} {entries : List (String × FileTree)}
    (hRoot : root.isAbsolute = true) (hFind : tree.find? root = some (.dir entries))
    (hNone : SourceLint.discover tree {} root = .ok []) :
    outcome { root := root } tree = .ok ⟨[], 0⟩ := by
  have hRun : run { root := root } tree = .ok ⟨[], 0⟩ :=
    run_eq_ok_iff.2 ⟨fun name hName => absurd hName.symm (Option.some_ne_none name),
      ⟨Path.text_ne_of_isAbsolute hRoot, FileTree.hasDir_iff.2 ⟨entries, hFind⟩⟩,
      [], hNone, fun _ hc => absurd hc List.not_mem_nil, rfl⟩
  rw [outcome, hRun]
  rfl

/-- The outcome of the run byte by byte. -/
def checkedByBytes (a : Analysis) (tree : FileTree) : Except AnalysisError.Kind Nat :=
  ((Bytewise.run a tree).mapError AnalysisError.kind).map (·.filesChecked)

/-- From a long root nothing is found, and from a short one the file is. Nor is
anything found below a root that is no text. -/
theorem outcome_outOfReach :
    (longTree.WellFormed ∧ (⟨"/r"⟩ : Path).isAbsolute = true ∧ longRoot.isAbsolute = true ∧
      longTree.find? ⟨"/r"⟩ = some (.dir longFiles) ∧
      longTree.find? longRoot = some (.dir longFiles) ∧
      (∀ source ∈ ({} : Scope).sources, StaysBelow source) ∧
      (∀ e ∈ ({} : Scope).headerExtensions ++ ({} : Scope).sourceExtensions, '/' ∉ e.toList) ∧
      outcome { root := ⟨"/r"⟩ } longTree ≠ outcome { root := longRoot } longTree) ∧
    (Bytewise.find? (.dir [("r", .dir checkedEntries)]) ⟨"/r"⟩ = some (.dir checkedEntries) ∧
      Bytewise.find? (.dir [("\xff", .dir checkedEntries)]) ⟨"/\xff"⟩ = some (.dir checkedEntries) ∧
      checkedByBytes { root := ⟨"/r"⟩ } (.dir [("r", .dir checkedEntries)]) = .ok 1 ∧
      checkedByBytes { root := ⟨"/\xff"⟩ } (.dir [("\xff", .dir checkedEntries)]) = .ok 0) := by
  refine ⟨⟨longTree_wellFormed, by decide, isAbsolute_longRoot, find?_shortRoot, find?_longRoot,
    List.forall_mem_singleton.2 ⟨by decide, by decide⟩, by decide, ?_⟩, rfl, rfl,
    by decide +kernel, by decide +kernel⟩
  intro hSame
  have hLong := outcome_of_discover_nil isAbsolute_longRoot find?_longRoot
    discover_longRoot_eq_nil
  obtain ⟨-, -, cs, hOk, -, hReport⟩ := run_eq_ok_iff.1 (run_of_outcome (hSame.trans hLong))
  obtain ⟨c, hc, -⟩ := exists_of_selects longTree_wellFormed isPlain_default (by decide)
    find?_shortRoot hOk selects_shortRoot
  have hLength : 0 = cs.length := congrArg Report.filesChecked hReport
  exact absurd hc (List.length_eq_zero_iff.1 hLength.symm ▸ List.not_mem_nil)

end Analysis

end SourceLint
