import SourceLint.Bytewise.Run
import SourceLint.Proofs.Analysis.Candidates
import SourceLint.Proofs.FileTree.Names

/-!
# Discovery is exact

Where sources lead down from the root and extensions have no special
characters, a run looks at exactly the files that lie below a source, have one
of the extensions and are not left out (`discover_exact`). Every such file is
looked at once, whichever sources and extensions reach it: what is found for a
source begins with the headers, so a file that has a header extension is found
as a header first.

A search goes through all directories below a source. If the path of one of them
is too long for the system, it cannot be read, and nothing is discovered.

* `Scope.IsPlain`      — settings without patterns.
* `Scope.Selects`      — what the settings ask for.
* `Scope.GoesTooDeep`  — what keeps it from being found.
* `discover_exact`     — what is discovered.
-/

namespace SourceLint

open FileTree (IsEntryName at? maxPathBytes)

-- ---------------------------------------------------------------------------
-- Plain settings
-- ---------------------------------------------------------------------------

/-- The last name ends in the extension. -/
def EndsIn (names : List String) (extension : String) : Prop :=
  ∃ name, names.getLast? = some name ∧ '.' :: extension.toList <:+ name.toList

namespace Scope

/-- Sources are `.` or lead down by names, and extensions have neither slashes
nor special characters. -/
structure IsPlain (s : Scope) : Prop where
  source : ∀ source ∈ s.sources, ∃ names, (∀ n ∈ names, IsEntryName n) ∧ source = sourceOf names
  extension : ∀ e ∈ s.headerExtensions ++ s.sourceExtensions,
    ∀ c ∈ e.toList, c ≠ '/' ∧ ¬ Glob.IsSpecial c

/-- The names lead from the root, at which there is `sub`, to a file that the
settings ask for. The paths of the source and of the file must not be longer
than the system takes. -/
structure Selects (s : Scope) (sub : FileTree) (root : Path) (names : List String) : Prop where
  file : ∃ content, at? names sub = some (.file content)
  source : ∃ above below entries, sourceOf above ∈ s.sources ∧
    at? above sub = some (.dir entries) ∧ below ≠ [] ∧ names = above ++ below ∧
    (sourceDir root (sourceOf above)).text.utf8ByteSize ≤ maxPathBytes
  extension : ∃ e ∈ s.headerExtensions ++ s.sourceExtensions, EndsIn names e
  kept : isExcluded s.excludePatterns root (root.tidy.descend names) = false
  size : (root.tidy.descend names).text.utf8ByteSize ≤ maxPathBytes

/-- There is an extension to look for, and below a source whose path the system
takes there is a directory whose path it does not take. -/
structure GoesTooDeep (s : Scope) (sub : FileTree) (root : Path) : Prop where
  extension : s.headerExtensions ++ s.sourceExtensions ≠ []
  directory : ∃ above below entries inner, sourceOf above ∈ s.sources ∧
    at? above sub = some (.dir entries) ∧ at? (above ++ below) sub = some (.dir inner) ∧
    (sourceDir root (sourceOf above)).text.utf8ByteSize ≤ maxPathBytes ∧
    maxPathBytes < (root.tidy.descend (above ++ below)).text.utf8ByteSize

/-- The settings list the same, in whatever order and how often. -/
structure SameMembers (s t : Scope) : Prop where
  sources : ∀ p, p ∈ s.sources ↔ p ∈ t.sources
  exclude : ∀ p, p ∈ s.exclude ↔ p ∈ t.exclude
  headers : ∀ e, e ∈ s.headerExtensions ↔ e ∈ t.headerExtensions
  others : ∀ e, e ∈ s.sourceExtensions ↔ e ∈ t.sourceExtensions

end Scope

variable {tree sub : FileTree} {scope : Scope} {root dir : Path} {kind : FileKind}
  {cs : List Candidate} {c : Candidate}

-- ---------------------------------------------------------------------------
-- Extensions
-- ---------------------------------------------------------------------------

theorem Scope.IsPlain.slash (h : scope.IsPlain) {e : String × FileKind}
    (he : e ∈ scope.extensions) :
    '/' ∉ e.1.toList := fun hSlash =>
  (h.extension e.1 (fst_mem_of_mem_extensions he) '/' hSlash).1 rfl

theorem Scope.IsPlain.pattern (h : scope.IsPlain) {e : String × FileKind}
    (he : e ∈ scope.extensions) :
    ∃ q, Glob.extensionPattern? e.1 = some q ∧
      ∀ name : List Char, q.accepts name = true ↔ '.' :: e.1.toList <:+ name :=
  Glob.extensionPattern_of_plain fun c hc =>
    (h.extension e.1 (fst_mem_of_mem_extensions he) c hc).2

theorem endsIn_append {above below : List String} {extension : String} (h : below ≠ []) :
    EndsIn (above ++ below) extension ↔ EndsIn below extension := by
  rw [EndsIn, EndsIn, List.getLast?_append_of_ne_nil _ h]

theorem EndsIn.ne_nil {names : List String} {extension : String} (h : EndsIn names extension) :
    names ≠ [] := by
  obtain ⟨name, hName, -⟩ := h
  rintro rfl
  cases hName

-- ---------------------------------------------------------------------------
-- What is found below a source
-- ---------------------------------------------------------------------------

section Found

variable (h : tree.WellFormed) (hScope : scope.IsPlain) (hRoot : root.isAbsolute = true)

include h hScope hRoot

/-- The search for an extension below a source finds something, unless a
directory there cannot be read. -/
theorem find_source {above : List String} (hAbove : ∀ n ∈ above, IsEntryName n)
    {entries : List (String × FileTree)}
    (hDir : tree.find? (sourceDir root (sourceOf above)) = some (.dir entries))
    {e : String × FileKind} (he : e ∈ scope.extensions) :
    ∃ paths, Glob.find tree.disk (filePattern (sourceDir root (sourceOf above)) e.1) =
      if (FileTree.dir entries).fitsBelow (root.tidy.descend above) then .ok paths
      else .error .unreadable := by
  obtain ⟨q, hq, -⟩ := hScope.pattern he
  have hFound := Glob.find_filePattern h (isAbsolute_sourceDir hRoot (sourceOf above)) hDir
    (hScope.slash he) hq
  rw [tidy_sourceDir root hAbove] at hFound
  exact ⟨_, hFound⟩

/-- What is found for a source and an extension lies below the source and has
the extension. -/
theorem mem_found_iff {above : List String} (hAbove : ∀ n ∈ above, IsEntryName n)
    (hDir : tree.hasDir (sourceDir root (sourceOf above)) = true) {e : String × FileKind}
    (he : e ∈ scope.extensions) {found : List Candidate}
    (hFound : candidatesIn tree scope root (sourceDir root (sourceOf above)) e.1 e.2 = .ok found) :
    c ∈ found ↔ c.kind = e.2 ∧ isWanted tree scope root c.path = true ∧
      ∃ below, (∀ n ∈ below, IsEntryName n) ∧ c.path = root.tidy.descend (above ++ below) ∧
        EndsIn below e.1 := by
  obtain ⟨q, hq, hAccepts⟩ := hScope.pattern he
  obtain ⟨entries, hFind⟩ := FileTree.hasDir_iff.1 hDir
  have hSource := isAbsolute_sourceDir hRoot (sourceOf above)
  rw [mem_candidatesIn h (hScope.slash he) hSource hFind hFound, tidy_sourceDir root hAbove]
  refine and_congr_right fun _ => and_congr_right fun _ => ?_
  constructor
  · rintro ⟨q', hq', front, name, hNames, hPath, hEnd⟩
    cases hq.symm.trans hq'
    refine ⟨front ++ [name], hNames, hPath.trans (Path.descend_append ..).symm, name, ?_, ?_⟩
    · exact List.getLast?_concat
    · exact (hAccepts _).1 hEnd
  · rintro ⟨below, hNames, hPath, name, hLast, hEnd⟩
    obtain ⟨front, rfl⟩ : ∃ front, below = front ++ [name] := List.getLast?_eq_some_iff.1 hLast
    exact ⟨q, hq, front, name, hNames, hPath.trans (Path.descend_append ..), (hAccepts _).2 hEnd⟩

omit h hScope hRoot in
theorem kind_of_mem_found {extensions : List String} {lists : List (List Candidate)}
    (hLists : ((extensions.map (·, kind)).mapM fun (extension, kind) =>
      candidatesIn tree scope root dir extension kind) = .ok lists)
    (hc : c ∈ lists.flatten) : c.kind = kind := by
  obtain ⟨list, hList, hc⟩ := List.mem_flatten.1 hc
  obtain ⟨e, he, hFound⟩ := exists_of_mem_mapM hLists hList
  obtain ⟨x, -, rfl⟩ := List.mem_map.1 he
  exact ((mem_candidatesIn_iff hFound).1 hc).1

/-- What is found for a source begins with the headers, so the first candidate
with some components is a header if there is one for a header extension. -/
theorem header_of_find? {above below : List String} (hAbove : ∀ n ∈ above, IsEntryName n)
    (hDir : tree.hasDir (sourceDir root (sourceOf above)) = true) {lists : List (List Candidate)}
    (hLists : (scope.extensions.mapM fun (extension, kind) =>
      candidatesIn tree scope root (sourceDir root (sourceOf above)) extension kind) = .ok lists)
    (hFirst : lists.flatten.find? (fun d => d.path.components = c.path.components) = some c)
    (hWanted : isWanted tree scope root c.path = true) (hBelow : ∀ n ∈ below, IsEntryName n)
    (hPath : c.path = root.tidy.descend (above ++ below)) {extension : String}
    (hExtension : extension ∈ scope.headerExtensions) (hEnd : EndsIn below extension) :
    c.kind = .header := by
  obtain ⟨headers, others, hHeaders, -, rfl⟩ := mapM_append_eq_ok hLists
  have hPair : (extension, FileKind.header) ∈ scope.headerExtensions.map (·, .header) :=
    List.mem_map_of_mem hExtension
  obtain ⟨hits, hHits, hHitsMem⟩ := exists_mem_of_mapM hHeaders hPair
  have hHit : (⟨c.path, .header⟩ : Candidate) ∈ hits :=
    (mem_found_iff h hScope hRoot hAbove hDir (List.mem_append_left _ hPair) hHits).2
      ⟨rfl, hWanted, below, hBelow, hPath, hEnd⟩
  have hSome : (headers.flatten.find? fun d =>
      d.path.components = c.path.components).isSome = true := by
    rw [List.find?_isSome]
    exact ⟨_, List.mem_flatten.2 ⟨hits, hHitsMem, hHit⟩, by simp⟩
  obtain ⟨d, hd⟩ := Option.isSome_iff_exists.1 hSome
  rw [List.flatten_append, List.find?_append, hd, Option.some_or, Option.some.injEq] at hFirst
  subst hFirst
  exact kind_of_mem_found hHeaders (List.mem_of_find?_eq_some hd)

theorem kind_of_find? {above : List String} (hAbove : ∀ n ∈ above, IsEntryName n)
    {found : List Candidate} (hOk : candidatesOf tree scope root (sourceOf above) = .ok found)
    (hFirst : found.find? (fun d => d.path.components = c.path.components) = some c)
    {names : List String} (hNames : ∀ n ∈ names, IsEntryName n)
    (hPath : c.path = root.tidy.descend names) :
    c.kind = .header ↔ ∃ e ∈ scope.headerExtensions, EndsIn names e := by
  have hMem := List.mem_of_find?_eq_some hFirst
  cases hDir : tree.hasDir (sourceDir root (sourceOf above)) with
  | false =>
    rw [candidatesOf] at hOk
    simp only [hDir, Bool.false_eq_true, if_false] at hOk
    cases hOk
    cases hMem
  | true =>
    obtain ⟨lists, hLists, rfl⟩ := candidatesOf_eq_ok hOk hDir
    obtain ⟨list, hList, hc⟩ := List.mem_flatten.1 hMem
    obtain ⟨e, he, hFound⟩ := exists_of_mem_mapM hLists hList
    obtain ⟨hKind, hWanted, below, hBelow, hBelowPath, hEnd⟩ :=
      (mem_found_iff h hScope hRoot hAbove hDir he hFound).1 hc
    have hSame : names = above ++ below := by
      apply names_eq_of_components hNames
      · exact List.forall_mem_append.2 ⟨hAbove, hBelow⟩
      · rw [← hPath, ← hBelowPath]
    subst hSame
    simp only [endsIn_append hEnd.ne_nil]
    constructor
    · intro hHeader
      rcases mem_extensions_iff.1 he with ⟨-, hExtension⟩ | ⟨hSource, -⟩
      · exact ⟨e.1, hExtension, hEnd⟩
      · rw [hKind, hSource] at hHeader
        cases hHeader
    · rintro ⟨extension, hExtension, hHeaderEnd⟩
      exact header_of_find? h hScope hRoot hAbove hDir hLists hFirst hWanted hBelow hPath
        hExtension hHeaderEnd

theorem kind_of_mem_discover (hOk : discover tree scope root = .ok cs) (hc : c ∈ cs)
    {names : List String} (hNames : ∀ n ∈ names, IsEntryName n)
    (hPath : c.path = root.tidy.descend names) :
    c.kind = .header ↔ ∃ e ∈ scope.headerExtensions, EndsIn names e := by
  obtain ⟨found, hFound, rfl⟩ := discover_eq_ok hOk
  have hFirst := mem_distinctOn_iff_find?.1 ((sortBy_perm _).mem_iff.1 hc)
  rw [List.find?_flatten] at hFirst
  obtain ⟨ofSource, hOfSource, hFirst⟩ := List.exists_of_findSome?_eq_some hFirst
  obtain ⟨source, hSource, hFound⟩ := exists_of_mem_mapM hFound hOfSource
  obtain ⟨above, hAbove, rfl⟩ := hScope.source source hSource
  exact kind_of_find? h hScope hRoot hAbove hFound hFirst hNames hPath

variable (hFind : tree.find? root = some sub)

include hFind

omit hScope hRoot in
/-- A search stops exactly at a directory whose path is too long. -/
theorem goesTooDeep_iff : scope.GoesTooDeep sub root ↔ scope.extensions ≠ [] ∧
    ∃ above entries, sourceOf above ∈ scope.sources ∧ (∀ n ∈ above, IsEntryName n) ∧
      tree.find? (sourceDir root (sourceOf above)) = some (.dir entries) ∧
      (FileTree.dir entries).fitsBelow (root.tidy.descend above) = false := by
  have hSub := h.find? hFind
  have hExtensions : scope.headerExtensions ++ scope.sourceExtensions ≠ [] ↔
      scope.extensions ≠ [] := by
    rw [Scope.extensions, ne_eq, ne_eq, List.append_eq_nil_iff, List.append_eq_nil_iff,
      List.map_eq_nil_iff, List.map_eq_nil_iff]
  constructor
  · rintro ⟨hExtension, above, below, entries, inner, hSource, hAt, hInner, hSize, hLong⟩
    have hAbove := (hSub.at? hAt).2
    refine ⟨hExtensions.1 hExtension, above, entries, hSource, hAbove, ?_, ?_⟩
    · rw [find?_sourceDir hFind hAbove, if_pos hSize, hAt]
    · rw [FileTree.fitsBelow_eq_false_iff (hSub.at? hAt).1]
      rw [FileTree.at?_append, hAt, Option.bind_some] at hInner
      refine ⟨below, inner, ?_, hInner, by rwa [← Path.descend_append]⟩
      -- the source itself is not too long
      rintro rfl
      have hTidy := Path.size_tidy_le (sourceDir root (sourceOf above))
      rw [tidy_sourceDir root hAbove] at hTidy
      rw [List.append_nil] at hLong
      exact absurd hLong (Nat.not_lt.2 (Nat.le_trans hTidy hSize))
  · rintro ⟨hExtension, above, entries, hSource, hAbove, hDir, hLong⟩
    rw [find?_sourceDir hFind hAbove, Option.ite_none_right_eq_some] at hDir
    obtain ⟨hSize, hAt⟩ := hDir
    obtain ⟨below, inner, -, hInner, hLong⟩ :=
      (FileTree.fitsBelow_eq_false_iff (hSub.at? hAt).1).1 hLong
    refine ⟨hExtensions.2 hExtension, above, below, entries, inner, hSource, hAt, ?_, hSize, ?_⟩
    · rw [FileTree.at?_append, hAt, Option.bind_some, hInner]
    · rwa [Path.descend_append]

theorem exists_discover (hReads : ¬ scope.GoesTooDeep sub root) :
    ∃ cs, discover tree scope root = .ok cs := by
  rw [exists_discover_iff]
  intro source hSource hDir e he
  obtain ⟨above, hAbove, rfl⟩ := hScope.source source hSource
  obtain ⟨entries, hEntries⟩ := FileTree.hasDir_iff.1 hDir
  obtain ⟨paths, hFound⟩ := find_source h hScope hRoot hAbove hEntries he
  cases hFits : (FileTree.dir entries).fitsBelow (root.tidy.descend above) with
  | true => exact ⟨paths, by rw [hFound, hFits, if_pos rfl]⟩
  | false =>
    refine absurd ?_ hReads
    rw [goesTooDeep_iff h hFind]
    exact ⟨List.ne_nil_of_mem he, above, entries, hSource, hAbove, hEntries, hFits⟩

/-- Where a directory cannot be read, nothing is discovered. -/
theorem discover_of_goesTooDeep (hDeep : scope.GoesTooDeep sub root) :
    discover tree scope root = .error .unreadable := by
  cases hOk : discover tree scope root with
  | ok cs =>
    obtain ⟨hExtension, above, entries, hSource, hAbove, hDir, hLong⟩ :=
      (goesTooDeep_iff h hFind).1 hDeep
    obtain ⟨e, he⟩ := List.exists_mem_of_ne_nil _ hExtension
    obtain ⟨paths, hFound⟩ := exists_discover_iff.1 ⟨cs, hOk⟩ _ hSource
      (FileTree.hasDir_iff.2 ⟨entries, hDir⟩) e he
    obtain ⟨others, hFound'⟩ := find_source h hScope hRoot hAbove hDir he
    rw [hLong, hFound] at hFound'
    cases hFound'
  | error failure =>
    obtain ⟨source, hSource, hDir, e, he, hBad⟩ := exists_of_discover_error hOk
    obtain ⟨above, hAbove, rfl⟩ := hScope.source source hSource
    obtain ⟨entries, hEntries⟩ := FileTree.hasDir_iff.1 hDir
    obtain ⟨paths, hFound⟩ := find_source h hScope hRoot hAbove hEntries he
    rw [hBad] at hFound
    split at hFound
    · cases hFound
    · cases hFound
      rfl

theorem selects_of_mem_discover (hOk : discover tree scope root = .ok cs) (hc : c ∈ cs) :
    ∃ names, scope.Selects sub root names ∧ c.path = root.tidy.descend names := by
  obtain ⟨source, hSource, hDir, e, he, found, hFound, hc⟩ := exists_of_mem_discover hOk hc
  obtain ⟨above, hAbove, rfl⟩ := hScope.source source hSource
  obtain ⟨-, hWanted, below, hBelow, hPath, hEnd⟩ :=
    (mem_found_iff h hScope hRoot hAbove hDir he hFound).1 hc
  rw [isWanted, Bool.and_eq_true, Bool.not_eq_true', hPath] at hWanted
  obtain ⟨hFile, hKept⟩ := hWanted
  obtain ⟨entries, hEntries⟩ := FileTree.hasDir_iff.1 hDir
  obtain ⟨content, hContent⟩ := FileTree.hasFile_iff.1 hFile
  rw [find?_sourceDir hFind hAbove, Option.ite_none_right_eq_some] at hEntries
  rw [FileTree.find?_descend (List.forall_mem_append.2 ⟨hAbove, hBelow⟩)
    (FileTree.find?_tidy hFind), Option.ite_none_right_eq_some] at hContent
  refine ⟨above ++ below, ?_, hPath⟩
  exact {
    file := ⟨content, hContent.2⟩
    source := ⟨above, below, entries, hSource, hEntries.2, hEnd.ne_nil, rfl, hEntries.1⟩
    extension := ⟨e.1, fst_mem_of_mem_extensions he, (endsIn_append hEnd.ne_nil).2 hEnd⟩
    kept := hKept
    size := hContent.1 }

omit hScope hRoot in
theorem Scope.Selects.entry {names : List String} (hSelects : scope.Selects sub root names) :
    ∀ n ∈ names, IsEntryName n := by
  obtain ⟨content, hContent⟩ := hSelects.file
  exact ((h.find? hFind).at? hContent).2

/-- Whatever the settings ask for is found for some source. -/
theorem exists_found_of_selects {found : List (List Candidate)}
    (hFound : scope.sources.mapM (candidatesOf tree scope root) = .ok found)
    {names : List String} (hSelects : scope.Selects sub root names) :
    ∃ kind, ⟨root.tidy.descend names, kind⟩ ∈ found.flatten := by
  have hEntry := hSelects.entry h hFind
  obtain ⟨content, hContent⟩ := hSelects.file
  obtain ⟨above, below, entries, hSource, hEntries, hNe, rfl, hSize⟩ := hSelects.source
  obtain ⟨hAbove, hBelow⟩ := List.forall_mem_append.1 hEntry
  have hDir : tree.hasDir (sourceDir root (sourceOf above)) = true :=
    FileTree.hasDir_iff.2 ⟨entries, by rw [find?_sourceDir hFind hAbove, if_pos hSize, hEntries]⟩
  have hFile : tree.hasFile (root.tidy.descend (above ++ below)) = true :=
    FileTree.hasFile_iff.2 ⟨content, by
      rw [FileTree.find?_descend hEntry (FileTree.find?_tidy hFind),
        if_pos hSelects.size, hContent]⟩
  have hWanted : isWanted tree scope root (root.tidy.descend (above ++ below)) = true := by
    rw [isWanted, hFile, hSelects.kept]
    rfl
  obtain ⟨extension, hExtension, hEnd⟩ := hSelects.extension
  obtain ⟨kind, hPair⟩ := exists_mem_extensions hExtension
  obtain ⟨ofSource, hOfSource, hMem⟩ := exists_mem_of_mapM hFound hSource
  obtain ⟨lists, hLists, rfl⟩ := candidatesOf_eq_ok hOfSource hDir
  obtain ⟨hits, hHits, hHitsMem⟩ := exists_mem_of_mapM hLists hPair
  have hHit : (⟨root.tidy.descend (above ++ below), kind⟩ : Candidate) ∈ hits :=
    (mem_found_iff h hScope hRoot hAbove hDir hPair hHits).2
      ⟨rfl, hWanted, below, hBelow, rfl, (endsIn_append hNe).1 hEnd⟩
  exact ⟨kind, List.mem_flatten.2 ⟨_, hMem, List.mem_flatten.2 ⟨hits, hHitsMem, hHit⟩⟩⟩

/-- Whatever the settings ask for is discovered. -/
theorem exists_of_selects (hOk : discover tree scope root = .ok cs) {names : List String}
    (hSelects : scope.Selects sub root names) :
    ∃ c ∈ cs, c.path = root.tidy.descend names := by
  obtain ⟨found, hFound, hEq⟩ := discover_eq_ok hOk
  obtain ⟨kind, hMem⟩ := exists_found_of_selects h hScope hRoot hFind hFound hSelects
  -- the candidate that is kept for these components has the same names
  obtain ⟨d, hd, hKey⟩ : ∃ d ∈ distinctOn (·.path.components) found.flatten,
      d.path.components = (root.tidy.descend names).components :=
    exists_mem_distinctOn hMem
  have hdMem : d ∈ cs := by
    rw [hEq]
    exact (sortBy_perm _).mem_iff.2 hd
  obtain ⟨others, hOthers, hPath⟩ := selects_of_mem_discover h hScope hRoot hFind hOk hdMem
  have hSame : others = names := by
    apply names_eq_of_components (hOthers.entry h hFind) (hSelects.entry h hFind)
    rw [← hPath]
    exact hKey
  exact ⟨d, hdMem, hPath.trans (by rw [hSame])⟩

/-- What is discovered is what the settings ask for. -/
theorem mem_discover_iff (hOk : discover tree scope root = .ok cs) :
    c ∈ cs ↔ ∃ names, scope.Selects sub root names ∧ c.path = root.tidy.descend names ∧
      (c.kind = .header ↔ ∃ e ∈ scope.headerExtensions, EndsIn names e) := by
  constructor
  · intro hc
    obtain ⟨names, hSelects, hPath⟩ := selects_of_mem_discover h hScope hRoot hFind hOk hc
    exact ⟨names, hSelects, hPath,
      kind_of_mem_discover h hScope hRoot hOk hc (hSelects.entry h hFind) hPath⟩
  · rintro ⟨names, hSelects, hPath, hKind⟩
    obtain ⟨d, hd, hdPath⟩ := exists_of_selects h hScope hRoot hFind hOk hSelects
    have hdKind := kind_of_mem_discover h hScope hRoot hOk hd (hSelects.entry h hFind) hdPath
    have hSame : c.kind = d.kind := by
      have hIff := hKind.trans hdKind.symm
      cases hc : c.kind <;> cases hdk : d.kind <;> simp_all
    obtain ⟨path, kind⟩ := c
    obtain ⟨dPath, dKind⟩ := d
    cases hPath.trans hdPath.symm
    cases hSame
    exact hd

end Found

-- ---------------------------------------------------------------------------
-- The settings as sets
-- ---------------------------------------------------------------------------

theorem Scope.SameMembers.isPlain {other : Scope} (hSame : other.SameMembers scope)
    (h : scope.IsPlain) : other.IsPlain where
  source source hSource := h.source source ((hSame.sources source).1 hSource)
  extension e he := by
    refine h.extension e ?_
    rw [List.mem_append] at he ⊢
    exact he.imp (hSame.headers e).1 (hSame.others e).1

theorem Scope.SameMembers.isExcluded_eq {other : Scope} (hSame : other.SameMembers scope)
    (root path : Path) :
    isExcluded other.excludePatterns root path = isExcluded scope.excludePatterns root path := by
  have hPatterns : ∀ p, p ∈ other.excludePatterns ↔ p ∈ scope.excludePatterns := by
    have hEmpty : other.exclude.isEmpty = scope.exclude.isEmpty := by
      rw [Bool.eq_iff_iff, List.isEmpty_iff, List.isEmpty_iff, List.eq_nil_iff_forall_not_mem,
        List.eq_nil_iff_forall_not_mem]
      exact forall_congr' fun p => not_congr (hSame.exclude p)
    intro p
    rw [excludePatterns, excludePatterns, hEmpty]
    split
    · rfl
    · exact hSame.exclude p
  rw [isExcluded, isExcluded, Bool.eq_iff_iff, List.any_eq_true, List.any_eq_true]
  simp only [hPatterns]

theorem Scope.SameMembers.mem_extensions_iff {other : Scope} (hSame : other.SameMembers scope)
    (e : String) : e ∈ other.headerExtensions ++ other.sourceExtensions ↔
      e ∈ scope.headerExtensions ++ scope.sourceExtensions := by
  rw [List.mem_append, List.mem_append, hSame.headers, hSame.others]

theorem Scope.SameMembers.selects_iff {other : Scope} (hSame : other.SameMembers scope)
    {names : List String} : other.Selects sub root names ↔ scope.Selects sub root names := by
  have hExtensions := hSame.mem_extensions_iff
  constructor
  · intro hSelects
    obtain ⟨hFile, hSource, hExtension, hKept, hSize⟩ := hSelects
    rw [hSame.isExcluded_eq] at hKept
    simp only [hExtensions] at hExtension
    simp only [hSame.sources] at hSource
    exact ⟨hFile, hSource, hExtension, hKept, hSize⟩
  · intro hSelects
    obtain ⟨hFile, hSource, hExtension, hKept, hSize⟩ := hSelects
    rw [← hSame.isExcluded_eq] at hKept
    simp only [← hExtensions] at hExtension
    simp only [← hSame.sources] at hSource
    exact ⟨hFile, hSource, hExtension, hKept, hSize⟩

instance : Std.Irrefl fun c d : Candidate =>
    compare c.path.components d.path.components = .lt where
  irrefl c hLt := by
    have hSelf : compare c.path.components c.path.components = .eq := Std.ReflCmp.compare_self
    cases hLt.symm.trans hSelf

instance : Std.Antisymm fun c d : Candidate =>
    compare c.path.components d.path.components = .lt where
  antisymm c d hcd hdc := by
    have hSwap : compare d.path.components c.path.components =
        (compare c.path.components d.path.components).swap := Std.OrientedCmp.eq_swap
    rw [hcd] at hSwap
    cases hdc.symm.trans hSwap

theorem Scope.SameMembers.goesTooDeep_iff {other : Scope} (hSame : other.SameMembers scope) :
    other.GoesTooDeep sub root ↔ scope.GoesTooDeep sub root := by
  have hExtensions : other.headerExtensions ++ other.sourceExtensions ≠ [] ↔
      scope.headerExtensions ++ scope.sourceExtensions ≠ [] := by
    rw [ne_eq, ne_eq, List.eq_nil_iff_forall_not_mem, List.eq_nil_iff_forall_not_mem]
    exact not_congr (forall_congr' fun e => not_congr (hSame.mem_extensions_iff e))
  constructor
  · rintro ⟨hExtension, hDirectory⟩
    simp only [hSame.sources] at hDirectory
    exact ⟨hExtensions.1 hExtension, hDirectory⟩
  · rintro ⟨hExtension, hDirectory⟩
    simp only [← hSame.sources] at hDirectory
    exact ⟨hExtensions.2 hExtension, hDirectory⟩

/-- **Discovery is exact**, unless a directory cannot be read, and the order of
the settings does not matter to it. -/
theorem discover_exact (h : tree.WellFormed) (hRoot : root.isAbsolute = true)
    (hFind : tree.find? root = some sub) (hScope : scope.IsPlain) :
    (scope.GoesTooDeep sub root → discover tree scope root = .error .unreadable) ∧
    (¬ scope.GoesTooDeep sub root → ∃ cs, discover tree scope root = .ok cs ∧
      (∀ c, c ∈ cs ↔ ∃ names, scope.Selects sub root names ∧ c.path = root.tidy.descend names ∧
        (c.kind = .header ↔ ∃ e ∈ scope.headerExtensions, EndsIn names e)) ∧
      cs.Pairwise fun c d => compare c.path.components d.path.components = .lt) ∧
    ∀ other : Scope, other.SameMembers scope →
      discover tree other root = discover tree scope root := by
  refine ⟨discover_of_goesTooDeep h hScope hRoot hFind, fun hReads => ?_, fun other hSame => ?_⟩
  · obtain ⟨cs, hOk⟩ := exists_discover h hScope hRoot hFind hReads
    exact ⟨cs, hOk, fun c => mem_discover_iff h hScope hRoot hFind hOk, discover_increasing hOk⟩
  · have hOther := hSame.isPlain hScope
    by_cases hDeep : scope.GoesTooDeep sub root
    case pos =>
      rw [discover_of_goesTooDeep h hScope hRoot hFind hDeep,
        discover_of_goesTooDeep h hOther hRoot hFind (hSame.goesTooDeep_iff.2 hDeep)]
    case neg =>
      obtain ⟨cs, hOk⟩ := exists_discover h hScope hRoot hFind hDeep
      obtain ⟨ds, hOk'⟩ := exists_discover h hOther hRoot hFind (hSame.goesTooDeep_iff.not.2 hDeep)
      have hMem : ∀ c, c ∈ ds ↔ c ∈ cs := by
        intro c
        rw [mem_discover_iff h hOther hRoot hFind hOk', mem_discover_iff h hScope hRoot hFind hOk]
        simp only [hSame.selects_iff, hSame.headers]
      rw [hOk', hOk, (discover_increasing hOk').eq_of_mem_iff (discover_increasing hOk) hMem]

-- ---------------------------------------------------------------------------
-- Long paths
-- ---------------------------------------------------------------------------

/-- A name that is long by a repeated letter. -/
def longName (letter : Char) (ending : String) : String :=
  String.ofList (List.replicate 251 letter) ++ ending

theorem isEntryName_longName {letter : Char} (hLetter : letter ≠ '/') {ending : String}
    (hEnding : '/' ∉ ending.toList) : IsEntryName (longName letter ending) := by
  have hLength : 2 < (longName letter ending).length := by
    rw [longName, String.length_append, String.length_ofList, List.length_replicate]
    omega
  have hNe : ∀ {s : String}, s.length ≤ 2 → longName letter ending ≠ s := fun hs hEq =>
    Nat.not_lt.2 hs (hEq ▸ hLength)
  refine ⟨hNe (by decide), hNe (by decide), hNe (by decide), ?_⟩
  rw [longName, String.toList_append, String.toList_ofList, List.mem_append, not_or]
  exact ⟨fun hMem => hLetter (List.eq_of_mem_replicate hMem).symm, hEnding⟩

theorem size_longName {letter : Char} (hLetter : letter.utf8Size = 1) (ending : String) :
    (longName letter ending).utf8ByteSize = 251 + ending.utf8ByteSize := by
  have hRepeated : ∀ n, (String.ofList (List.replicate n letter)).utf8ByteSize = n := by
    intro n
    induction n with
    | zero => rfl
    | succ n ih =>
      rw [List.replicate_succ', String.ofList_append, String.utf8ByteSize_append, ih]
      simp [hLetter]
  rw [longName, String.utf8ByteSize_append, hRepeated]

theorem toList_longFile :
    (longName 'a' ".cpp").toList = List.replicate 251 'a' ++ ['.', 'c', 'p', 'p'] := by
  rw [longName, String.toList_append, String.toList_ofList]
  rfl

/-- The directory to check. -/
def longFiles : List (String × FileTree) :=
  [(longName 'a' ".cpp", .file "#include <map>\n".toUTF8)]

/-- Beside it there is a directory with a name of 255 bytes. -/
def longEntries : List (String × FileTree) :=
  [(longName 'd' ".dir", .dir []), ("r", .dir longFiles)]

def longTree : FileTree :=
  .dir longEntries

/-- The directory to check, behind fifteen detours. -/
def longRoot : Path :=
  Path.descend ⟨"/"⟩ (FileTree.detour (longName 'd' ".dir") 15 ++ ["r"])

theorem isEntryName_longFile : IsEntryName (longName 'a' ".cpp") :=
  isEntryName_longName (by decide) (by decide)

theorem isEntryName_longDir : IsEntryName (longName 'd' ".dir") :=
  isEntryName_longName (by decide) (by decide)

theorem isEntryName_r : IsEntryName "r" :=
  ⟨by decide, by decide, by decide, by decide⟩

theorem longTree_wellFormed : longTree.WellFormed := by
  have hLt : longName 'd' ".dir" < "r" := by
    rw [String.lt_iff, longName, String.toList_append, String.toList_ofList]
    exact List.Lex.rel (by decide)
  have hEmpty : (FileTree.dir []).WellFormed :=
    FileTree.wellFormed_dir_iff.2 ⟨.nil, fun e he => absurd he List.not_mem_nil⟩
  have hFile : ∀ content, (FileTree.file content).WellFormed := fun content =>
    ⟨trivial, .file content⟩
  have hFiles : (FileTree.dir longFiles).WellFormed :=
    FileTree.wellFormed_dir_iff.2 ⟨List.pairwise_singleton ..,
      List.forall_mem_singleton.2 ⟨isEntryName_longFile, hFile _⟩⟩
  rw [longTree, longEntries, FileTree.wellFormed_dir_iff, List.forall_mem_cons,
    List.forall_mem_singleton]
  exact ⟨by simpa using hLt, ⟨isEntryName_longDir, hEmpty⟩, isEntryName_r, hFiles⟩

/-- The names on the way add up to 3856 bytes. -/
theorem namesSize_longRoot (more : Nat) :
    Path.namesSize more (FileTree.detour (longName 'd' ".dir") 15 ++ ["r"]) =
      3856 + 31 * more := by
  have hName : (longName 'd' ".dir").utf8ByteSize = 255 := size_longName (by decide) ".dir"
  have hRoot : "r".utf8ByteSize = 1 := rfl
  rw [Path.namesSize_append, FileTree.namesSize_detour, hName, Path.namesSize, hRoot,
    Path.namesSize]
  omega

theorem slash_longRoot :
    ∀ n ∈ FileTree.detour (longName 'd' ".dir") 15 ++ ["r"], '/' ∉ n.toList :=
  List.forall_mem_append.2 ⟨FileTree.not_mem_detour isEntryName_longDir.2.2.2 15, by decide⟩

theorem isAbsolute_longRoot : longRoot.isAbsolute = true :=
  Path.isAbsolute_descend (by decide) _

theorem follow?_shortRoot :
    longTree.follow? ⟨"/r"⟩ = some ⟨.dir longFiles, [("r", longTree)]⟩ := by
  have hName : ("r" == longName 'd' ".dir") = false := by
    rw [beq_eq_false_iff_ne]
    intro hEq
    have hSize := congrArg String.utf8ByteSize hEq
    rw [size_longName (by decide)] at hSize
    exact absurd hSize (by decide)
  have hSteps : (⟨"/r"⟩ : Path).steps = [[], "r".toList] := by decide
  rw [FileTree.follow?_eq, hSteps, List.foldlM_cons, longTree, FileTree.step_silent (Or.inl rfl)]
  show Option.bind (some _) _ = _
  rw [Option.bind_some, List.foldlM_cons, FileTree.step_entryName isEntryName_r, FileTree.entries,
    longEntries, List.lookup_cons, hName]
  rfl

theorem find?_shortRoot : longTree.find? ⟨"/r"⟩ = some (.dir longFiles) :=
  FileTree.find?_eq_some_iff.2 ⟨by decide, _, follow?_shortRoot⟩

theorem size_longRoot : longRoot.text.utf8ByteSize ≤ maxPathBytes := by
  have hLe := Path.size_descend_le ⟨"/"⟩ (FileTree.detour (longName 'd' ".dir") 15 ++ ["r"])
  rw [namesSize_longRoot] at hLe
  exact Nat.le_trans hLe (by decide)

theorem find?_longRoot : longTree.find? longRoot = some (.dir longFiles) := by
  have hDetour : longTree.follow? longRoot = longTree.follow? (Path.descend ⟨"/"⟩ ["r"]) :=
    FileTree.follow?_detour isEntryName_longDir List.lookup_cons_self 15 (by decide)
  have hShort : Path.descend ⟨"/"⟩ ["r"] = ⟨"/r"⟩ := by decide
  refine FileTree.find?_eq_some_iff.2 ⟨size_longRoot, [("r", longTree)], ?_⟩
  rw [hDetour, hShort, follow?_shortRoot]

/-- The file has a path that is too long. -/
theorem size_below_longRoot :
    maxPathBytes < (longRoot.tidy.descend [longName 'a' ".cpp"]).text.utf8ByteSize := by
  have hSlash : ∀ n ∈ [longName 'a' ".cpp"], '/' ∉ n.toList :=
    List.forall_mem_singleton.2 isEntryName_longFile.2.2.2
  have hTidy : longRoot.tidy = longRoot := Path.tidy_descend _ slash_longRoot
  have hLe := Path.size_add_le_size_descend ⟨"/"⟩
    (List.forall_mem_append.2 ⟨slash_longRoot, hSlash⟩)
  have hName : (longName 'a' ".cpp").utf8ByteSize = 255 := size_longName (by decide) ".cpp"
  rw [Path.namesSize_append, namesSize_longRoot, Path.namesSize, hName, Path.namesSize] at hLe
  rw [hTidy, longRoot, ← Path.descend_append]
  exact Nat.lt_of_lt_of_le (by decide) hLe

set_option maxRecDepth 10000 in
/-- The build directories are elsewhere. -/
theorem isExcluded_longFile (hRoot : root.isAbsolute = true) :
    isExcluded ({} : Scope).excludePatterns root (root.tidy.descend [longName 'a' ".cpp"]) =
      false := by
  have hPatterns : ({} : Scope).excludePatterns = ["**/build/**"] := rfl
  rw [isExcluded, relativeTo_entryNames hRoot (List.forall_mem_singleton.2 isEntryName_longFile),
    String.intercalate_singleton, hPatterns, List.any_cons, List.any_nil, Bool.or_false,
    describesFile, toList_longFile]
  decide +kernel

theorem isPlain_default : ({} : Scope).IsPlain where
  source source hSource := ⟨[], by simp, List.mem_singleton.1 hSource⟩
  extension := by decide

theorem at?_longFile : at? [longName 'a' ".cpp"] (.dir longFiles) =
    some (.file "#include <map>\n".toUTF8) := by
  rw [at?, FileTree.entries, longFiles, List.lookup_cons_self]
  rfl

theorem endsIn_longFile : EndsIn [longName 'a' ".cpp"] "cpp" := by
  have hEnding : '.' :: "cpp".toList = ['.', 'c', 'p', 'p'] := by decide
  refine ⟨longName 'a' ".cpp", rfl, List.replicate 251 'a', ?_⟩
  rw [toList_longFile, hEnding]

/-- Nothing else lies below the root. -/
theorem names_of_at?_longFiles {names : List String} {u : FileTree}
    (h : at? names (.dir longFiles) = some u) :
    names = [] ∨ names = [longName 'a' ".cpp"] ∧ u.isDirectory = false := by
  cases names with
  | nil => exact Or.inl rfl
  | cons n ns =>
    rw [at?, FileTree.entries, longFiles, List.lookup_cons, Option.bind_eq_some_iff] at h
    obtain ⟨child, hLookup, hRest⟩ := h
    cases hName : n == longName 'a' ".cpp" with
    | false => rw [hName] at hLookup; cases hLookup
    | true =>
      rw [hName] at hLookup
      cases hLookup
      cases ns with
      | nil => cases hRest; exact Or.inr ⟨by rw [beq_iff_eq.1 hName], rfl⟩
      | cons m ms => cases hRest

theorem not_goesTooDeep_longFiles {scope : Scope} (hSize : root.text.utf8ByteSize ≤ maxPathBytes) :
    ¬ scope.GoesTooDeep (.dir longFiles) root := by
  rintro ⟨-, above, below, entries, inner, -, -, hInner, -, hLong⟩
  rcases names_of_at?_longFiles hInner with hNil | ⟨-, hFile⟩
  · rw [hNil] at hLong
    exact absurd hLong (Nat.not_lt.2 (Nat.le_trans (Path.size_tidy_le root) hSize))
  · cases hFile

theorem discover_longRoot_eq_nil : discover longTree {} longRoot = .ok [] := by
  obtain ⟨cs, hOk⟩ := exists_discover longTree_wellFormed isPlain_default isAbsolute_longRoot
    find?_longRoot (not_goesTooDeep_longFiles size_longRoot)
  have hNone : ∀ c, c ∉ cs := by
    intro c hc
    obtain ⟨names, hSelects, -⟩ := selects_of_mem_discover longTree_wellFormed isPlain_default
      isAbsolute_longRoot find?_longRoot hOk hc
    obtain ⟨content, hContent⟩ := hSelects.file
    rcases names_of_at?_longFiles hContent with hNil | ⟨hFile, -⟩
    · rw [hNil] at hContent
      cases hContent
    · have hSize := hSelects.size
      rw [hFile] at hSize
      exact absurd size_below_longRoot (Nat.not_lt.2 hSize)
  rw [hOk, List.eq_nil_iff_forall_not_mem.2 hNone]

/-- The top directory, behind as many detours. The directory in it has a path
that is too long. -/
def deepRoot : Path :=
  Path.descend ⟨"/"⟩ (FileTree.detour (longName 'd' ".dir") 15)

theorem isAbsolute_deepRoot : deepRoot.isAbsolute = true :=
  Path.isAbsolute_descend (by decide) _

theorem size_deepRoot : deepRoot.text.utf8ByteSize ≤ maxPathBytes := by
  have hLe := Path.size_descend_le ⟨"/"⟩ (FileTree.detour (longName 'd' ".dir") 15)
  rw [FileTree.namesSize_detour, size_longName (by decide)] at hLe
  exact Nat.le_trans hLe (by decide)

theorem find?_deepRoot : longTree.find? deepRoot = some longTree := by
  have hDetour : longTree.follow? (Path.descend ⟨"/"⟩
      (FileTree.detour (longName 'd' ".dir") 15 ++ [])) =
        longTree.follow? (Path.descend ⟨"/"⟩ []) :=
    FileTree.follow?_detour isEntryName_longDir List.lookup_cons_self 15 (by decide)
  rw [List.append_nil] at hDetour
  exact FileTree.find?_eq_some_iff.2 ⟨size_deepRoot, [], hDetour⟩

theorem goesTooDeep_deepRoot : ({} : Scope).GoesTooDeep longTree deepRoot where
  extension := by decide
  directory := by
    have hSlash := FileTree.not_mem_detour isEntryName_longDir.2.2.2 15
    have hName : ∀ n ∈ [longName 'd' ".dir"], '/' ∉ n.toList :=
      List.forall_mem_singleton.2 isEntryName_longDir.2.2.2
    have hTidy : deepRoot.tidy = deepRoot := Path.tidy_descend _ hSlash
    have hLe := Path.size_add_le_size_descend ⟨"/"⟩ (List.forall_mem_append.2 ⟨hSlash, hName⟩)
    rw [Path.namesSize_append, FileTree.namesSize_detour, Path.namesSize,
      size_longName (by decide), Path.namesSize] at hLe
    refine ⟨[], [longName 'd' ".dir"], longEntries, [], List.mem_singleton_self _, rfl, ?_,
      size_deepRoot, ?_⟩
    · rw [List.nil_append, at?, longTree, FileTree.entries, longEntries, List.lookup_cons_self]
      rfl
    · rw [hTidy, deepRoot, List.nil_append, ← Path.descend_append]
      exact Nat.lt_of_lt_of_le (by decide) hLe

/-- A directory whose name is no text, with a file that the settings ask for. -/
def unreadableName : FileTree :=
  .dir [("\xff", .dir [("a.cpp", .file "#include <map>\n".toUTF8)])]

/-- **What is out of reach.** A path beyond the length is missed, though all else
asks for the file; where it is that of a directory, nothing is discovered; and
below a root that is no text a search finds nothing. -/
theorem discover_outOfReach :
    (longTree.WellFormed ∧ longRoot.isAbsolute = true ∧
      longTree.find? longRoot = some (.dir longFiles) ∧ ({} : Scope).IsPlain ∧
      ({} : Scope).sources = [sourceOf []] ∧ "cpp" ∈ ({} : Scope).sourceExtensions ∧
      at? [longName 'a' ".cpp"] (.dir longFiles) = some (.file "#include <map>\n".toUTF8) ∧
      EndsIn [longName 'a' ".cpp"] "cpp" ∧
      isExcluded ({} : Scope).excludePatterns longRoot
        (longRoot.tidy.descend [longName 'a' ".cpp"]) = false ∧
      discover longTree {} longRoot = .ok []) ∧
    (deepRoot.isAbsolute = true ∧ longTree.find? deepRoot = some longTree ∧
      discover longTree {} deepRoot = .error .unreadable) ∧
    (unreadableName.WellFormed ∧ Bytewise.hasDir unreadableName ⟨"/\xff"⟩ = true ∧
      Bytewise.hasFile unreadableName ⟨"/\xff/a.cpp"⟩ = true ∧
      Bytewise.discover unreadableName {} ⟨"/\xff"⟩ = .ok []) := by
  refine ⟨⟨longTree_wellFormed, isAbsolute_longRoot, find?_longRoot, isPlain_default, rfl,
    by decide, at?_longFile, endsIn_longFile, isExcluded_longFile isAbsolute_longRoot,
    discover_longRoot_eq_nil⟩, ⟨isAbsolute_deepRoot, find?_deepRoot, ?_⟩, by decide +kernel,
    by decide +kernel, by decide +kernel, by decide +kernel⟩
  exact discover_of_goesTooDeep longTree_wellFormed isPlain_default isAbsolute_deepRoot
    find?_deepRoot goesTooDeep_deepRoot

theorem selects_shortRoot : ({} : Scope).Selects (.dir longFiles) ⟨"/r"⟩ [longName 'a' ".cpp"] where
  file := ⟨_, at?_longFile⟩
  source := ⟨[], _, longFiles, List.mem_singleton_self _, rfl, List.cons_ne_nil _ _, rfl, by decide⟩
  extension := ⟨"cpp", by decide, endsIn_longFile⟩
  kept := isExcluded_longFile (by decide)
  size := by
    have hTidy : (⟨"/r"⟩ : Path).tidy = ⟨"/r"⟩ := by decide
    have hName : (longName 'a' ".cpp").utf8ByteSize = 255 := size_longName (by decide) ".cpp"
    have hLe := Path.size_descend_le ⟨"/r"⟩ [longName 'a' ".cpp"]
    rw [Path.namesSize, hName, Path.namesSize] at hLe
    rw [hTidy]
    exact Nat.le_trans hLe (by decide)

/-- From the short root the file is discovered. -/
theorem discover_shortRoot :
    ∃ cs, discover longTree {} ⟨"/r"⟩ = .ok cs ∧
      ⟨(⟨"/r"⟩ : Path).tidy.descend [longName 'a' ".cpp"], .source⟩ ∈ cs := by
  obtain ⟨cs, hOk, hMem, -⟩ :=
    (discover_exact longTree_wellFormed (by decide) find?_shortRoot isPlain_default).2.1
      (not_goesTooDeep_longFiles (by decide))
  have hKind : ¬ ∃ e ∈ ({} : Scope).headerExtensions, EndsIn [longName 'a' ".cpp"] e := by
    rintro ⟨e, he, name, hName, front, hEnd⟩
    have hSame : longName 'a' ".cpp" = name := Option.some.inj hName
    have hLast := congrArg List.getLast? hEnd
    rw [← hSame, List.mem_singleton.1 he, toList_longFile,
      List.getLast?_append_of_ne_nil _ (List.cons_ne_nil _ _),
      List.getLast?_append_of_ne_nil _ (List.cons_ne_nil _ _)] at hLast
    exact absurd hLast (by decide)
  generalize hPath : (⟨"/r"⟩ : Path).tidy.descend [longName 'a' ".cpp"] = path
  exact ⟨cs, hOk, (hMem _).2 ⟨[longName 'a' ".cpp"], selects_shortRoot, hPath.symm,
    iff_of_false FileKind.noConfusion hKind⟩⟩

end SourceLint
