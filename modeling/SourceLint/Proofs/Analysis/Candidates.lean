import SourceLint.Proofs.FirstOccurrence
import SourceLint.Proofs.Glob.Walk
import SourceLint.Proofs.Path.Order
import SourceLint.Proofs.Sort
import SourceLint.Proofs.Traverse

/-!
# Candidates

What is discovered was found below some source, by the pattern of some
extension, and is a file that is not left out (`exists_of_mem_discover`). What
is found for an extension without a slash lies below the directory of the
source (`exists_of_mem_candidatesIn`), and from the root that is all there is to
it (`candidatesIn_filePattern`, `mem_candidatesIn`).

Discovery succeeds or fails by its searches, and it reads no file: the outline
of the tree decides.

* `exists_discover_iff`         — discovery succeeds if all searches do.
* `exists_of_discover_error`    — it fails as one of them does.
* `discover_outline`            — it reads no file.
* `discover_increasing`         — the paths strictly increase.
* `isAbsolute_of_mem_discover`  — below an absolute root all paths are absolute.
* `candidatesIn_filePattern`    — the files with one extension below a directory.
-/

namespace SourceLint

open FileTree (at? IsEntryName)

variable {tree : FileTree} {scope : Scope} {root dir : Path} {extension : String}
  {kind : FileKind}

/-- The file is there and not left out. -/
def isWanted (tree : FileTree) (scope : Scope) (root path : Path) : Bool :=
  tree.hasFile path && !isExcluded scope.excludePatterns root path

-- ---------------------------------------------------------------------------
-- Extensions
-- ---------------------------------------------------------------------------

theorem mem_extensions_iff {e : String × FileKind} :
    e ∈ scope.extensions ↔ e.2 = .header ∧ e.1 ∈ scope.headerExtensions ∨
      e.2 = .source ∧ e.1 ∈ scope.sourceExtensions := by
  obtain ⟨extension, kind⟩ := e
  rw [Scope.extensions, List.mem_append, List.mem_map, List.mem_map]
  constructor
  · rintro (⟨x, hx, hEq⟩ | ⟨x, hx, hEq⟩)
    · cases hEq; exact Or.inl ⟨rfl, hx⟩
    · cases hEq; exact Or.inr ⟨rfl, hx⟩
  · rintro (⟨rfl, hx⟩ | ⟨rfl, hx⟩)
    · exact Or.inl ⟨extension, hx, rfl⟩
    · exact Or.inr ⟨extension, hx, rfl⟩

theorem fst_mem_of_mem_extensions {e : String × FileKind} (he : e ∈ scope.extensions) :
    e.1 ∈ scope.headerExtensions ++ scope.sourceExtensions := by
  rw [List.mem_append]
  exact (mem_extensions_iff.1 he).imp And.right And.right

theorem exists_mem_extensions (he : extension ∈ scope.headerExtensions ++ scope.sourceExtensions) :
    ∃ kind, (extension, kind) ∈ scope.extensions := by
  rcases List.mem_append.1 he with hHeader | hOther
  · exact ⟨.header, mem_extensions_iff.2 (Or.inl ⟨rfl, hHeader⟩)⟩
  · exact ⟨.source, mem_extensions_iff.2 (Or.inr ⟨rfl, hOther⟩)⟩

-- ---------------------------------------------------------------------------
-- Where candidates come from
-- ---------------------------------------------------------------------------

theorem candidatesIn_eq (tree : FileTree) (scope : Scope) (root dir : Path) (extension : String)
    (kind : FileKind) :
    candidatesIn tree scope root dir extension kind =
      (Glob.find tree.disk (filePattern dir extension)).map fun paths =>
        (paths.filter (isWanted tree scope root)).map (⟨·, kind⟩) := rfl

/-- The candidates of a list of sources are those found for them, each once
and in order. -/
theorem discover_eq_ok {cs : List Candidate} (h : discover tree scope root = .ok cs) :
    ∃ found, scope.sources.mapM (candidatesOf tree scope root) = .ok found ∧
      cs = sortBy (fun a b => a.path.le b.path) (distinctOn (·.path.components) found.flatten) := by
  rw [discover] at h
  cases hFound : scope.sources.mapM (candidatesOf tree scope root) with
  | error fault => rw [hFound] at h; cases h
  | ok found =>
    rw [hFound] at h
    cases h
    exact ⟨found, rfl, rfl⟩

theorem candidatesOf_eq_ok {source : Path} {cs : List Candidate}
    (h : candidatesOf tree scope root source = .ok cs)
    (hDir : tree.hasDir (sourceDir root source)) :
    ∃ found, (scope.extensions.mapM fun (extension, kind) =>
      candidatesIn tree scope root (sourceDir root source) extension kind) = .ok found ∧
        cs = found.flatten := by
  rw [candidatesOf] at h
  simp only [hDir, if_true] at h
  cases hFound : scope.extensions.mapM fun (extension, kind) =>
      candidatesIn tree scope root (sourceDir root source) extension kind with
  | error fault => rw [hFound] at h; cases h
  | ok found =>
    rw [hFound] at h
    cases h
    exact ⟨found, rfl, rfl⟩

/-- What is found for the sources was found for one of them and an extension. -/
theorem exists_of_mem_found {found : List (List Candidate)}
    (h : scope.sources.mapM (candidatesOf tree scope root) = .ok found) {c : Candidate}
    (hc : c ∈ found.flatten) :
    ∃ source ∈ scope.sources, tree.hasDir (sourceDir root source) = true ∧
      ∃ e ∈ scope.extensions, ∃ found,
        candidatesIn tree scope root (sourceDir root source) e.1 e.2 = .ok found ∧ c ∈ found := by
  obtain ⟨ofSource, hOfSource, hc⟩ := List.mem_flatten.1 hc
  obtain ⟨source, hSource, hOk⟩ := exists_of_mem_mapM h hOfSource
  cases hDir : tree.hasDir (sourceDir root source) with
  | false =>
    rw [candidatesOf] at hOk
    simp only [hDir, Bool.false_eq_true, if_false] at hOk
    cases hOk
    cases hc
  | true =>
    obtain ⟨found', hFound', rfl⟩ := candidatesOf_eq_ok hOk hDir
    obtain ⟨ofExtension, hOfExtension, hc⟩ := List.mem_flatten.1 hc
    obtain ⟨e, he, hOk⟩ := exists_of_mem_mapM hFound' hOfExtension
    exact ⟨source, hSource, hDir, e, he, ofExtension, hOk, hc⟩

/-- What is discovered was found for a source and an extension. -/
theorem exists_of_mem_discover {cs : List Candidate} (h : discover tree scope root = .ok cs)
    {c : Candidate} (hc : c ∈ cs) :
    ∃ source ∈ scope.sources, tree.hasDir (sourceDir root source) = true ∧
      ∃ e ∈ scope.extensions, ∃ found,
        candidatesIn tree scope root (sourceDir root source) e.1 e.2 = .ok found ∧ c ∈ found := by
  obtain ⟨found, hFound, rfl⟩ := discover_eq_ok h
  exact exists_of_mem_found hFound ((distinctOn_sublist _).subset ((sortBy_perm _).mem_iff.1 hc))

-- ---------------------------------------------------------------------------
-- What discovery depends on
-- ---------------------------------------------------------------------------

theorem candidatesIn_eq_error {failure : Glob.Failure} :
    candidatesIn tree scope root dir extension kind = .error failure ↔
      Glob.find tree.disk (filePattern dir extension) = .error failure := by
  rw [candidatesIn_eq]
  cases Glob.find tree.disk (filePattern dir extension) with
  | error other => rw [Except.map, Except.error.injEq, Except.error.injEq]
  | ok paths => exact iff_of_false nofun nofun

/-- Discovery fails as the search for some source and extension does. -/
theorem exists_of_discover_error {failure : Glob.Failure}
    (h : discover tree scope root = .error failure) :
    ∃ source ∈ scope.sources, tree.hasDir (sourceDir root source) = true ∧
      ∃ e ∈ scope.extensions,
        Glob.find tree.disk (filePattern (sourceDir root source) e.1) = .error failure := by
  rw [discover] at h
  cases hFound : scope.sources.mapM (candidatesOf tree scope root) with
  | ok found => rw [hFound] at h; cases h
  | error other =>
    rw [hFound] at h
    cases h
    obtain ⟨source, hSource, hBad⟩ := exists_of_mapM_eq_error hFound
    rw [candidatesOf] at hBad
    cases hDir : tree.hasDir (sourceDir root source) with
    | false => simp only [hDir, Bool.false_eq_true, if_false] at hBad; cases hBad
    | true =>
      simp only [hDir, if_true] at hBad
      cases hLists : scope.extensions.mapM fun (extension, kind) =>
          candidatesIn tree scope root (sourceDir root source) extension kind with
      | ok lists => rw [hLists] at hBad; cases hBad
      | error last =>
        rw [hLists] at hBad
        cases hBad
        obtain ⟨e, he, hFind⟩ := exists_of_mapM_eq_error hLists
        exact ⟨source, hSource, hDir, e, he, candidatesIn_eq_error.1 hFind⟩

/-- It succeeds if all these searches do. -/
theorem exists_discover_iff :
    (∃ cs, discover tree scope root = .ok cs) ↔
      ∀ source ∈ scope.sources, tree.hasDir (sourceDir root source) = true →
        ∀ e ∈ scope.extensions, ∃ paths,
          Glob.find tree.disk (filePattern (sourceDir root source) e.1) = .ok paths := by
  constructor
  · rintro ⟨cs, hOk⟩ source hSource hDir e he
    obtain ⟨found, hFound, -⟩ := discover_eq_ok hOk
    obtain ⟨ofSource, hOfSource, -⟩ := exists_mem_of_mapM hFound hSource
    obtain ⟨lists, hLists, -⟩ := candidatesOf_eq_ok hOfSource hDir
    obtain ⟨list, hList, -⟩ := exists_mem_of_mapM hLists he
    cases hFind : Glob.find tree.disk (filePattern (sourceDir root source) e.1) with
    | error failure => cases hList.symm.trans (candidatesIn_eq_error.2 hFind)
    | ok paths => exact ⟨paths, rfl⟩
  · intro hAll
    cases hOk : discover tree scope root with
    | ok cs => exact ⟨cs, rfl⟩
    | error failure =>
      obtain ⟨source, hSource, hDir, e, he, hBad⟩ := exists_of_discover_error hOk
      obtain ⟨paths, hFind⟩ := hAll source hSource hDir e he
      cases hBad.symm.trans hFind

theorem candidatesOf_outline (tree : FileTree) (scope : Scope) (root source : Path) :
    candidatesOf tree.outline scope root source = candidatesOf tree scope root source := by
  have hWanted : isWanted tree.outline scope root = isWanted tree scope root := by
    funext path
    rw [isWanted, isWanted, FileTree.hasFile_outline]
  simp only [candidatesOf, candidatesIn_eq, FileTree.hasDir_outline, FileTree.disk_outline, hWanted]

/-- Discovery reads no file. -/
theorem discover_outline (tree : FileTree) (scope : Scope) (root : Path) :
    discover tree.outline scope root = discover tree scope root := by
  have hEach := funext (candidatesOf_outline tree scope root)
  rw [discover, discover, hEach]

-- ---------------------------------------------------------------------------
-- What is discovered
-- ---------------------------------------------------------------------------

section Discovered

variable {cs : List Candidate} {c : Candidate}

theorem mem_candidatesIn_iff (h : candidatesIn tree scope root dir extension kind = .ok cs) :
    c ∈ cs ↔ c.kind = kind ∧ isWanted tree scope root c.path = true ∧
      ∃ paths, Glob.find tree.disk (filePattern dir extension) = .ok paths ∧ c.path ∈ paths := by
  rw [candidatesIn_eq] at h
  cases hFind : Glob.find tree.disk (filePattern dir extension) with
  | error fault => rw [hFind] at h; cases h
  | ok paths =>
    rw [hFind] at h
    cases h
    rw [List.mem_map]
    constructor
    · rintro ⟨path, hPath, rfl⟩
      obtain ⟨hMem, hWanted⟩ := List.mem_filter.1 hPath
      exact ⟨rfl, hWanted, paths, rfl, hMem⟩
    · rintro ⟨hKind, hWanted, paths', hOk, hMem⟩
      cases hOk
      exact ⟨c.path, List.mem_filter.2 ⟨hMem, hWanted⟩, by rw [← hKind]⟩

/-- What is discovered is there and not left out. -/
theorem isWanted_of_mem_discover (h : discover tree scope root = .ok cs) (hc : c ∈ cs) :
    isWanted tree scope root c.path = true := by
  obtain ⟨source, -, -, e, -, found, hFound, hc⟩ := exists_of_mem_discover h hc
  exact ((mem_candidatesIn_iff hFound).1 hc).2.1

theorem text_sourceDir_ne (hRoot : root.text ≠ "") (source : Path) :
    (sourceDir root source).text ≠ "" := by
  rw [sourceDir]
  split
  · exact hRoot
  · exact Path.text_join_ne hRoot source

theorem isAbsolute_sourceDir (hRoot : root.isAbsolute = true) (source : Path) :
    (sourceDir root source).isAbsolute = true := by
  rw [sourceDir]
  split
  · exact hRoot
  · exact Path.isAbsolute_join hRoot source

/-- Below an absolute root all discovered paths are absolute. -/
theorem isAbsolute_of_mem_discover (hRoot : root.isAbsolute = true)
    (h : discover tree scope root = .ok cs) (hc : c ∈ cs) : c.path.isAbsolute = true := by
  obtain ⟨source, -, -, e, -, found, hFound, hc⟩ := exists_of_mem_discover h hc
  obtain ⟨-, -, paths, hFind, hPath⟩ := (mem_candidatesIn_iff hFound).1 hc
  exact Glob.isAbsolute_of_mem_find (isAbsolute_sourceDir hRoot source) hFind hPath

/-- No file is discovered twice, however its path is written. -/
theorem nodup_components_of_discover (h : discover tree scope root = .ok cs) :
    (cs.map (·.path.components)).Nodup := by
  obtain ⟨found, -, rfl⟩ := discover_eq_ok h
  exact ((sortBy_perm _).map _).nodup_iff.2 (nodup_map_distinctOn found.flatten)

/-- The paths strictly increase. -/
theorem discover_increasing (h : discover tree scope root = .ok cs) :
    cs.Pairwise fun c d => compare c.path.components d.path.components = .lt := by
  have hNodup := nodup_components_of_discover h
  have hSorted : cs.Pairwise fun c d => c.path.le d.path = true := by
    obtain ⟨found, -, rfl⟩ := discover_eq_ok h
    exact pairwise_sortBy_key Candidate.path _
  rw [List.Nodup, List.pairwise_map] at hNodup
  refine (hSorted.and hNodup).imp ?_
  rintro c d ⟨hLe, hNe⟩
  rw [Path.le] at hLe
  cases hCompare : compare c.path.components d.path.components with
  | lt => rfl
  | eq => exact absurd (Std.LawfulEqCmp.eq_of_compare hCompare) hNe
  | gt => rw [hCompare] at hLe; exact absurd hLe (by decide)

end Discovered

-- ---------------------------------------------------------------------------
-- Extensions without a slash
-- ---------------------------------------------------------------------------

section NoSlash

variable (h : tree.WellFormed) (hSlash : '/' ∉ extension.toList) {cs : List Candidate}
  {c : Candidate}

include h hSlash

/-- What has an extension without a slash lies below the directory, under a name
with that extension. -/
theorem exists_of_mem_candidatesIn (hDir : dir.text ≠ "")
    (hOk : candidatesIn tree scope root dir extension kind = .ok cs) (hc : c ∈ cs) :
    ∃ q, Glob.extensionPattern? extension = some q ∧
      ∃ names name, (∀ n ∈ names ++ [name], IsEntryName n) ∧
        c.path = (Glob.base dir).descend (names ++ [name]) ∧ q.accepts name.toList = true := by
  obtain ⟨-, -, paths, hFind, hPath⟩ := (mem_candidatesIn_iff hOk).1 hc
  exact Glob.exists_of_mem_find h hDir hSlash hFind hPath

omit h in
/-- An extension that spells no pattern is refused, whatever the directory. -/
theorem candidatesIn_of_no_pattern (hDir : dir.text ≠ "")
    (hNone : Glob.extensionPattern? extension = none) (tree : FileTree) (scope : Scope)
    (root : Path) (kind : FileKind) :
    ∃ fault, candidatesIn tree scope root dir extension kind = .error (.badPattern fault) := by
  have hNot : ¬ Glob.IsPattern (filePattern dir extension) := by
    rw [Glob.isPattern_filePattern hDir, Glob.isPattern_extensionText hSlash, hNone]
    exact Bool.false_ne_true
  obtain ⟨fault, hBad⟩ := (Glob.find_eq_badPattern_iff (d := tree.disk)).2 hNot
  exact ⟨fault, candidatesIn_eq_error.2 hBad⟩

variable (hDir : dir.isAbsolute = true) {sub : FileTree} (hFind : tree.find? dir = some sub)

include hDir hFind

/-- From the root the files with an extension without a slash are those of the
listing, if all directories below can be read. -/
theorem candidatesIn_filePattern {q : Glob.Pattern}
    (hq : Glob.extensionPattern? extension = some q) (scope : Scope) (root : Path)
    (kind : FileKind) :
    candidatesIn tree scope root dir extension kind =
      if sub.fitsBelow dir.tidy then
        .ok ((sub.listing.filter fun x => q.accepts (x.1.getLast?.getD "").toList &&
          isWanted tree scope root (dir.tidy.descend x.1)).map
            fun x => ⟨dir.tidy.descend x.1, kind⟩)
      else .error .unreadable := by
  rw [candidatesIn_eq, Glob.find_filePattern h hDir hFind hSlash hq]
  split
  case isFalse => rfl
  case isTrue =>
    show Except.ok (List.map _ (List.filter _ (List.map _ _))) = _
    rw [List.filter_map, List.map_map, List.filter_filter]
    simp only [Bool.and_comm, Function.comp_def]

/-- So a candidate is a file that is not left out, below the directory and with
the extension. -/
theorem mem_candidatesIn (hOk : candidatesIn tree scope root dir extension kind = .ok cs) :
    c ∈ cs ↔ c.kind = kind ∧ isWanted tree scope root c.path = true ∧
      ∃ q, Glob.extensionPattern? extension = some q ∧
        ∃ names name, (∀ n ∈ names ++ [name], IsEntryName n) ∧
          c.path = dir.tidy.descend (names ++ [name]) ∧ q.accepts name.toList = true := by
  have hTidy := FileTree.find?_tidy hFind
  constructor
  · intro hc
    obtain ⟨hKind, hWanted, -⟩ := (mem_candidatesIn_iff hOk).1 hc
    have hBelow := exists_of_mem_candidatesIn h hSlash (Path.text_ne_of_isAbsolute hDir) hOk hc
    rw [Glob.base_of_isAbsolute hDir] at hBelow
    exact ⟨hKind, hWanted, hBelow⟩
  · rintro ⟨rfl, hWanted, q, hq, front, name, hNames, hPath, hAccepts⟩
    rw [candidatesIn_filePattern h hSlash hDir hFind hq] at hOk
    split at hOk
    case isFalse => cases hOk
    case isTrue =>
      cases hOk
      have hFile : tree.hasFile (dir.tidy.descend (front ++ [name])) = true := by
        rw [isWanted, Bool.and_eq_true, hPath] at hWanted
        exact hWanted.1
      obtain ⟨content, hContent⟩ := FileTree.hasFile_iff.1 hFile
      rw [FileTree.find?_descend hNames hTidy] at hContent
      have hAt := (Option.ite_none_right_eq_some.1 hContent).2
      refine List.mem_map.2 ⟨(front ++ [name], .file content), List.mem_filter.2 ⟨?_, ?_⟩, ?_⟩
      · exact (FileTree.mem_listing (h.find? hFind)).2 ⟨by simp, hAt⟩
      · rw [List.getLast?_concat, Option.getD_some, hAccepts, ← hPath, hWanted]
        rfl
      · rw [← hPath]

end NoSlash

end SourceLint
