import Mathlib.Data.List.Nodup
import SourceLint.Proofs.FileTree.Disk
import SourceLint.Proofs.Glob.Base
import SourceLint.Proofs.Glob.FilePattern

/-!
# Searching a tree along a file pattern

From the root the parts of a directory lead to the directory and nowhere else,
whatever characters it has (`walk_descend`), and `**` to all that lies below. So
a file pattern whose extension has no slash finds the listing of the directory,
as far as the names have the extension; unless there is a directory among it
whose path is too long to be read, which makes the search fail
(`find_filePattern`). From the current directory the parts may lead nowhere, but
what is found lies below the directory (`exists_of_mem_find`).

* `walk_descend`           — the parts of a path lead to the path.
* `find_filePattern`       — what a file pattern finds.
* `exists_of_mem_find`     — what is found lies below the directory.
* `isAbsolute_of_mem_find` — absolute patterns find absolute paths.
-/

namespace SourceLint.Glob

open FileTree (Place maxPathBytes at? IsEntryName listedFrom)

-- ---------------------------------------------------------------------------
-- Single parts
-- ---------------------------------------------------------------------------

section Parts

variable {P : Type} {d : Disk P} {s : Spot P} {p q : Pattern} {rest : List Pattern}

theorem walk_literal (hp : p.isRecursive = false) {name : String} (hName : p.literal? = some name) :
    d.walk (p :: rest) s =
      if d.leadsOn s name then d.walk rest (d.spotAt (d.enter s.path name)) else some [] := by
  rw [Disk.walk.eq_def]
  simp only [hp, Bool.false_eq_true, if_false, hName]

theorem walk_names (hp : p.isRecursive = false) (hName : p.literal? = none) :
    d.walk (p :: rest) s =
      (d.nextSpots p s).bind fun next => (next.mapM fun s => d.walk rest s).map List.flatten := by
  rw [Disk.walk.eq_def]
  simp only [hp, Bool.false_eq_true, if_false, hName]

theorem walk_below (hp : p.isRecursive = true) (hq : q.isRecursive = false) :
    d.walk (p :: q :: rest) s = (d.allBelow s).bind fun found =>
      ((found.filter q.acceptsEntry).mapM fun e => d.walk rest e.toSpot).map List.flatten := by
  rw [Disk.walk.eq_def]
  simp only [hp, hq, Bool.false_eq_true, if_true, if_false]

/-- With one more name all below that has it is found. -/
theorem walk_below_last (hp : p.isRecursive = true) (hq : q.isRecursive = false) :
    d.walk [p, q] s =
      (d.allBelow s).map fun found => (found.filter q.acceptsEntry).map (·.toSpot) := by
  rw [walk_below hp hq]
  cases d.allBelow s with
  | none => rfl
  | some found =>
    have hEach : ∀ e ∈ found.filter q.acceptsEntry, d.walk [] e.toSpot = some [e.toSpot] :=
      fun _ _ => Disk.walk.eq_1 ..
    rw [Option.bind_some, mapM_eq_some hEach, Option.map_some, Option.map_some,
      ← List.flatMap_def, List.map_eq_flatMap]

/-- What is found through a list of spots is found from one of them. -/
theorem exists_of_mem_flatten {spots : List (Spot P)} {found : List (Spot P)}
    (h : (spots.mapM fun s => d.walk rest s).map List.flatten = some found) {f : Spot P}
    (hf : f ∈ found) : ∃ s ∈ spots, ∃ found', d.walk rest s = some found' ∧ f ∈ found' := by
  obtain ⟨lists, hLists, rfl⟩ := Option.map_eq_some_iff.1 h
  obtain ⟨list, hList, hf⟩ := List.mem_flatten.1 hf
  obtain ⟨s, hs, hWalk⟩ := exists_of_mem_mapM_some hLists hList
  exact ⟨s, hs, list, hWalk, hf⟩

end Parts

variable {tree : FileTree} {path dir : Path} {q : Pattern} {rest : List Pattern}

theorem isEntryName_of_special {n : String} (hn : '/' ∉ n.toList)
    (hSpecial : ¬ ∀ c ∈ n.toList, ¬ IsSpecial c) : IsEntryName n := by
  refine ⟨?_, ?_, ?_, hn⟩ <;> rintro rfl <;> exact hSpecial (by decide)

theorem accepts_escapedPattern_eq (n name : String) :
    (escapedPattern n.toList).accepts name.toList = (name == n) := by
  rw [Bool.eq_iff_iff, accepts_escapedPattern, beq_iff_eq, String.toList_inj]

/-- No special name is that of an entry. -/
theorem special_escapedPattern {P : Type} (d : Disk P) {n : String} (hName : IsEntryName n)
    (path : P) : d.special (escapedPattern n.toList) path = [] := by
  have hNone : (["..", "."].filter fun name => (escapedPattern n.toList).accepts name.toList) =
      [] := by
    simp only [accepts_escapedPattern_eq]
    rw [List.filter_eq_nil_iff, List.forall_mem_cons, List.forall_mem_singleton]
    exact ⟨fun hUp => hName.2.2.1 (eq_of_beq hUp).symm,
      fun hHere => hName.2.1 (eq_of_beq hHere).symm⟩
  rw [Disk.special, hNone]
  split <;> rfl

-- ---------------------------------------------------------------------------
-- The parts of an absolute directory
-- ---------------------------------------------------------------------------

/-- A path can be followed to its end if a longer one can. -/
theorem exists_dir_of_child {n : String} (hn : '/' ∉ n.toList) {place : Place}
    (hFollow : tree.follow? (path.child n) = some place)
    (hSize : (path.child n).text.utf8ByteSize ≤ maxPathBytes) :
    ∃ entries above, tree.follow? path = some ⟨.dir entries, above⟩ ∧
      tree.find? path = some (.dir entries) ∧
      (Place.mk (.dir entries) above).step n.toList = some place := by
  rw [FileTree.follow?_child tree path hn, Option.bind_eq_some_iff] at hFollow
  obtain ⟨⟨here, above⟩, hPath, hStep⟩ := hFollow
  cases here with
  | file content => cases hStep
  | dir entries =>
    have hChild := Path.size_add_le_size_child path hn
    have hShort := Nat.le_trans (Nat.le_of_add_right_le hChild) hSize
    exact ⟨entries, above, hPath, FileTree.find?_eq_some_iff.2 ⟨hShort, above, hPath⟩, hStep⟩

/-- Only one entry has the name. -/
theorem filter_name_eq {entries : List (String × FileTree)}
    (hNames : (entries.map Prod.fst).Nodup) {n : String} {child : FileTree}
    (hMem : (n, child) ∈ entries) : (entries.filter fun e => e.1 == n) = [(n, child)] := by
  induction entries with
  | nil => cases hMem
  | cons e entries ih =>
    rw [List.map_cons, List.nodup_cons] at hNames
    obtain ⟨hNew, hRest⟩ := hNames
    rcases List.mem_cons.1 hMem with rfl | hMem
    · have hOthers : (entries.filter fun e => e.1 == n) = [] := by
        refine List.filter_eq_nil_iff.2 fun e he hEq => hNew ?_
        have hName : e.1 ∈ entries.map Prod.fst := List.mem_map_of_mem he
        rwa [eq_of_beq hEq] at hName
      rw [List.filter_cons, if_pos (beq_self_eq_true n), hOthers]
    · have hName : n ∈ entries.map Prod.fst := List.mem_map.2 ⟨_, hMem, rfl⟩
      have hNe : ¬ (e.1 == n) = true := fun hEq => hNew (eq_of_beq hEq ▸ hName)
      rw [List.filter_cons, if_neg hNe, ih hRest hMem]

/-- Of the names below a directory an escaped one describes one. -/
theorem nextSpots_escapedPattern {n : String} (hName : IsEntryName n)
    (hAbs : path.isAbsolute = true) {entries : List (String × FileTree)}
    (hFind : tree.find? path = some (.dir entries)) (hNames : (entries.map Prod.fst).Nodup)
    {child : FileTree} (hLookup : entries.lookup n = some child) :
    tree.disk.nextSpots (escapedPattern n.toList) ⟨path, true⟩ =
      some [⟨path.child n, child.isDirectory⟩] := by
  have hEntries : (FileTree.entriesAt path entries).filter (escapedPattern n.toList).acceptsEntry =
      FileTree.entriesAt path (entries.filter fun e => e.1 == n) := by
    rw [FileTree.entriesAt, FileTree.entriesAt, List.filter_map]
    congr 1
    refine List.filter_congr fun e _ => ?_
    rw [Function.comp_apply, Pattern.acceptsEntry, Option.any_some, accepts_escapedPattern_eq]
  have hOne := filter_name_eq hNames ((FileTree.lookup_eq_some_iff hNames).1 hLookup)
  rw [Disk.nextSpots, if_pos rfl, FileTree.list_disk hFind, Option.map_some,
    special_escapedPattern _ hName, List.nil_append, hEntries, hOne, FileTree.entriesAt,
    listedFrom_of_isAbsolute hAbs]
  rfl

/-- The part of a step leads on by that step alone. -/
theorem walk_escapedPattern (h : tree.WellFormed) (hAbs : path.isAbsolute = true) {n : String}
    (hn : '/' ∉ n.toList) {place : Place} (hFollow : tree.follow? (path.child n) = some place)
    (hSize : (path.child n).text.utf8ByteSize ≤ maxPathBytes) (rest : List Pattern) :
    tree.disk.walk (escapedPattern n.toList :: rest) ⟨path, true⟩ =
      tree.disk.walk rest ⟨path.child n, place.here.isDirectory⟩ := by
  obtain ⟨entries, above, -, hFind, hStep⟩ := exists_dir_of_child hn hFollow hSize
  have hText := Path.text_ne_of_isAbsolute (Path.isAbsolute_child hAbs n)
  have hChild : tree.find? (path.child n) = some place.here :=
    FileTree.find?_eq_some_iff.2 ⟨hSize, place.above, hFollow⟩
  have hEnter : tree.disk.enter path n = path.child n := by
    rw [enter_disk tree path hn, enter_of_isAbsolute hAbs]
  have hLiteral := literal?_escapedPattern n.toList
  by_cases hPlain : ∀ c ∈ n.toList, ¬ IsSpecial c
  case pos =>
    have hLeads : tree.disk.leadsOn ⟨path, true⟩ n = true := by
      rw [Disk.leadsOn, hEnter, FileTree.disk_isDirectory? hText, hChild]
      split <;> rfl
    rw [if_pos hPlain, String.ofList_toList] at hLiteral
    rw [walk_literal (isRecursive_escapedPattern _) hLiteral, if_pos hLeads, hEnter,
      FileTree.spotAt_disk hText hChild]
  case neg =>
    have hName := isEntryName_of_special hn hPlain
    have hNames := (h.find? hFind).names_nodup
    rw [FileTree.step_entryName hName, Option.map_eq_some_iff] at hStep
    obtain ⟨child, hLookup, rfl⟩ := hStep
    rw [if_neg hPlain] at hLiteral
    rw [walk_names (isRecursive_escapedPattern _) hLiteral,
      nextSpots_escapedPattern hName hAbs hFind hNames hLookup, Option.bind_some, List.mapM_cons,
      List.mapM_nil]
    cases tree.disk.walk rest ⟨path.child n, child.isDirectory⟩ with
    | none => rfl
    | some found => exact congrArg some (List.append_nil found)

/-- The parts of a path lead to the path and nowhere else. -/
theorem walk_descend (h : tree.WellFormed) (hAbs : path.isAbsolute = true) {ns : List String}
    (hns : ∀ n ∈ ns, '/' ∉ n.toList) {origin place : Place}
    (hOrigin : tree.follow? path = some origin)
    (hFollow : tree.follow? (path.descend ns) = some place)
    (hSize : (path.descend ns).text.utf8ByteSize ≤ maxPathBytes) (rest : List Pattern) :
    tree.disk.walk (ns.map (fun n => escapedPattern n.toList) ++ rest)
        ⟨path, origin.here.isDirectory⟩ =
      tree.disk.walk rest ⟨path.descend ns, place.here.isDirectory⟩ := by
  induction ns generalizing path origin with
  | nil =>
    cases hOrigin.symm.trans hFollow
    rfl
  | cons n ns ih =>
    obtain ⟨hn, hRest⟩ := List.forall_mem_cons.1 hns
    obtain ⟨next, hNext⟩ : ∃ next, tree.follow? (path.child n) = some next := by
      rw [Path.descend_cons, FileTree.follow?_descend tree _ hRest] at hFollow
      obtain ⟨next, hNext, -⟩ := Option.bind_eq_some_iff.1 hFollow
      exact ⟨next, hNext⟩
    have hBelow := Path.size_add_le_size_descend (path.child n) hRest
    have hShort := Nat.le_trans (Nat.le_of_add_right_le hBelow) hSize
    obtain ⟨entries, above, hDir, -⟩ := exists_dir_of_child hn hNext hShort
    cases hOrigin.symm.trans hDir
    show tree.disk.walk (_ :: _) ⟨path, true⟩ = _
    rw [List.append_eq, walk_escapedPattern h hAbs hn hNext hShort]
    exact ih (Path.isAbsolute_child hAbs n) hRest hNext hFollow hSize

-- ---------------------------------------------------------------------------
-- File patterns
-- ---------------------------------------------------------------------------

theorem head?_filePattern (hDir : dir.text ≠ "") (extension : String) :
    (filePattern dir extension).head? = some '/' ↔ dir.isAbsolute = true := by
  rw [filePattern_eq, Path.isAbsolute, decide_eq_true_eq]
  cases hText : dir.text.toList with
  | nil => exact absurd (String.toList_eq_nil_iff.1 hText) hDir
  | cons c cs =>
    rw [escape_cons]
    split
    case isTrue hc => rcases hc with rfl | rfl | rfl | rfl <;> simp
    case isFalse => simp

theorem getLast?_filePattern {extension : String} (hSlash : '/' ∉ extension.toList) :
    (filePattern dir extension).getLast? ≠ some '/' := by
  have hBehind : filePattern dir extension =
      (escape dir.text.toList ++ ['/', '*', '*', '/', '*']) ++ '.' :: extension.toList := by
    simp [filePattern]
  rw [hBehind, List.getLast?_append_of_ne_nil _ (List.cons_ne_nil _ _)]
  intro hLast
  have hMem := List.mem_of_getLast? hLast
  rw [List.mem_cons] at hMem
  rcases hMem with hDot | hMem
  · cases hDot
  · exact hSlash hMem

/-- The patterns of the parts of a file pattern. -/
theorem patterns_filePattern (hDir : dir.text ≠ "") {extension : String}
    (hSlash : '/' ∉ extension.toList) (hq : extensionPattern? extension = some q) :
    patterns (filePattern dir extension) =
      .ok (dir.stepNames.map (fun n => escapedPattern n.toList) ++ [⟨[.anyDirectories]⟩, q]) := by
  have hSteps : ((dir.stepNames.map fun n => escape n.toList).mapM
      fun part => (Pattern.parse part).toOption) =
        some (dir.stepNames.map fun n => escapedPattern n.toList) := by
    rw [List.mapM_map]
    apply mapM_eq_some
    intro n _
    rw [Function.comp_apply, parse_escape]
    rfl
  have hBehind : (([['*', '*'], extensionText extension] : List (List Char)).mapM
      fun part => (Pattern.parse part).toOption) = some [⟨[.anyDirectories]⟩, q] := by
    have hStars : (Pattern.parse ['*', '*']).toOption = some ⟨[.anyDirectories]⟩ := rfl
    rw [extensionPattern?] at hq
    rw [List.mapM_cons, hStars, List.mapM_cons, hq]
    rfl
  have hParts : (parts (filePattern dir extension)).mapM Pattern.parse =
      .ok (dir.stepNames.map (fun n => escapedPattern n.toList) ++ [⟨[.anyDirectories]⟩, q]) := by
    rw [← toOption_eq_some_iff, toOption_mapM, parts_filePattern hDir, parts_extensionText hSlash,
      List.mapM_append, hSteps, hBehind]
    rfl
  have hWhole : (Pattern.parse (filePattern dir extension)).toOption.isSome = true := by
    rw [isSome_parse_filePattern, ← extensionPattern?, hq]
    rfl
  obtain ⟨whole, hParse⟩ := Option.isSome_iff_exists.1 hWhole
  rw [toOption_eq_some_iff] at hParse
  rw [patterns, hParse, hParts]
  rfl

theorem start_filePattern (tree : FileTree) (hDir : dir.text ≠ "") (extension : String) :
    tree.disk.start (filePattern dir extension) = tree.disk.spotAt (origin dir) := by
  rw [Disk.start, origin]
  simp only [head?_filePattern hDir]
  split <;> rfl

/-- All that lies below a directory that is found. -/
theorem allBelow_disk {sub : FileTree} (hFind : tree.find? path = some sub) :
    tree.disk.allBelow ⟨path, sub.isDirectory⟩ = sub.allBelow path := by
  cases sub with
  | file content => rfl
  | dir entries => exact FileTree.below_disk hFind

/-- What a search for a file pattern finds is all that is walked to. -/
theorem search_filePattern {P : Type} (d : Disk P) {extension : String}
    (hSlash : '/' ∉ extension.toList) (ps : List Pattern) :
    d.search (filePattern dir extension) ps =
      match d.walk ps (d.start (filePattern dir extension)) with
      | none => .error .unreadable
      | some found => .ok (found.map (·.path)) := by
  have hFile : (filePattern dir extension).getLast? ≠ some '/' := getLast?_filePattern hSlash
  rw [Disk.search]
  cases d.walk ps (d.start (filePattern dir extension)) with
  | none => rfl
  | some found => simp only [if_neg hFile]

theorem exists_entries_of_find? {sub : FileTree} (hFind : tree.find? dir = some sub) :
    ∃ entries, tree = .dir entries := by
  obtain ⟨-, above, hFollow⟩ := FileTree.find?_eq_some_iff.1 hFind
  cases tree with
  | dir entries => exact ⟨entries, rfl⟩
  | file content =>
    obtain ⟨m, ms, hSteps⟩ := List.exists_cons_of_ne_nil (Path.splitSlash_ne_nil dir.text.toList)
    rw [FileTree.follow?_eq, Path.steps, hSteps, List.foldlM_cons] at hFollow
    cases hFollow

/-- From the root the parts of a directory lead to it. -/
theorem walk_stepNames (h : tree.WellFormed) (hDir : dir.isAbsolute = true) {sub : FileTree}
    (hFind : tree.find? dir = some sub) (rest : List Pattern) :
    tree.disk.walk (dir.stepNames.map (fun n => escapedPattern n.toList) ++ rest)
        (tree.disk.spotAt (origin dir)) =
      tree.disk.walk rest ⟨dir.tidy, sub.isDirectory⟩ := by
  obtain ⟨entries, rfl⟩ := exists_entries_of_find? hFind
  obtain ⟨hSize, above, hFollow⟩ := FileTree.find?_eq_some_iff.1 (FileTree.find?_tidy hFind)
  have hRoot : (FileTree.dir entries).follow? ⟨"/"⟩ = some ⟨.dir entries, []⟩ := rfl
  have hTop : (FileTree.dir entries).find? ⟨"/"⟩ = some (.dir entries) :=
    FileTree.find?_eq_some_iff.2 ⟨by decide, [], hRoot⟩
  have hStart : dir.start = ⟨"/"⟩ := if_pos hDir
  rw [Path.tidy, hStart] at hFollow hSize ⊢
  rw [origin, if_pos hDir, FileTree.spotAt_disk (by decide) hTop]
  exact walk_descend h (by decide) (Path.not_mem_stepNames dir) hRoot hFollow hSize rest

theorem accepts_listedAt (q : Pattern) (path : Path) :
    q.acceptsEntry ∘ FileTree.listedAt path = fun x => q.accepts (x.1.getLast?.getD "").toList :=
  funext fun _ => Option.any_some ..

/-- **A file pattern finds what lies below the directory and has the extension**,
if all directories there can be read. -/
theorem find_filePattern (h : tree.WellFormed) (hDir : dir.isAbsolute = true) {sub : FileTree}
    (hFind : tree.find? dir = some sub) {extension : String} (hSlash : '/' ∉ extension.toList)
    (hq : extensionPattern? extension = some q) :
    find tree.disk (filePattern dir extension) =
      if sub.fitsBelow dir.tidy then
        .ok ((sub.listing.filter fun x => q.accepts (x.1.getLast?.getD "").toList).map
          fun x => dir.tidy.descend x.1)
      else .error .unreadable := by
  have hText := Path.text_ne_of_isAbsolute hDir
  have hStars : (⟨[.anyDirectories]⟩ : Pattern).isRecursive = true := rfl
  rw [find_of_patterns (patterns_filePattern hText hSlash hq), search_filePattern _ hSlash,
    start_filePattern tree hText, walk_stepNames h hDir hFind,
    walk_below_last hStars (isRecursive_of_extensionPattern? hSlash hq),
    allBelow_disk (FileTree.find?_tidy hFind), FileTree.allBelow_eq,
    listedFrom_of_isAbsolute (Path.isAbsolute_tidy hDir)]
  cases sub.fitsBelow dir.tidy with
  | false => rfl
  | true =>
    rw [if_pos rfl, if_pos rfl, Option.map_some, List.filter_map, accepts_listedAt]
    exact congrArg Except.ok (by rw [List.map_map, List.map_map]; rfl)

-- ---------------------------------------------------------------------------
-- What any directory leads to
-- ---------------------------------------------------------------------------

/-- One step on is a special name, or a name that the directory lists and the
pattern describes. -/
theorem exists_of_mem_nextSpots {p : Pattern} {s : Spot Path} {next : List (Spot Path)}
    (hNext : tree.disk.nextSpots p s = some next) {t : Spot Path} (ht : t ∈ next) :
    t ∈ tree.disk.special p s.path ∨
      ∃ name flag, p.accepts name.toList = true ∧ t = ⟨enter s.path name, flag⟩ := by
  rw [Disk.nextSpots] at hNext
  split at hNext
  · obtain ⟨listed, hList, rfl⟩ := Option.map_eq_some_iff.1 hNext
    obtain ⟨entries, -, rfl⟩ := FileTree.exists_of_list hList
    refine (List.mem_append.1 ht).imp_right fun ht => ?_
    obtain ⟨e, he, rfl⟩ := List.mem_map.1 ht
    obtain ⟨hMem, hAccepts⟩ := List.mem_filter.1 he
    obtain ⟨⟨name, sub⟩, -, rfl⟩ := List.mem_map.1 hMem
    exact ⟨name, sub.isDirectory, hAccepts, rfl⟩
  · cases hNext
    cases ht

/-- The part of a step leads to its path, if anywhere. -/
theorem exists_walk_of_part {n : String} (hn : '/' ∉ n.toList) {flag : Bool}
    {found : List (Spot Path)}
    (hWalk : tree.disk.walk (escapedPattern n.toList :: rest) ⟨path, flag⟩ = some found)
    {f : Spot Path} (hf : f ∈ found) :
    ∃ flag' found', tree.disk.walk rest ⟨enter path n, flag'⟩ = some found' ∧ f ∈ found' := by
  have hLiteral := literal?_escapedPattern n.toList
  by_cases hPlain : ∀ c ∈ n.toList, ¬ IsSpecial c
  case pos =>
    rw [if_pos hPlain, String.ofList_toList] at hLiteral
    rw [walk_literal (isRecursive_escapedPattern _) hLiteral, enter_disk tree path hn] at hWalk
    split at hWalk
    · exact ⟨_, found, hWalk, hf⟩
    · cases hWalk
      cases hf
  case neg =>
    have hName := isEntryName_of_special hn hPlain
    rw [if_neg hPlain] at hLiteral
    rw [walk_names (isRecursive_escapedPattern _) hLiteral] at hWalk
    obtain ⟨next, hNext, hWalk⟩ := Option.bind_eq_some_iff.1 hWalk
    obtain ⟨s, hs, found', hFound, hf⟩ := exists_of_mem_flatten hWalk hf
    have hPath : s.path = enter path n := by
      rcases exists_of_mem_nextSpots hNext hs with hSpecial | ⟨name, flag', hAccepts, rfl⟩
      · rw [special_escapedPattern _ hName] at hSpecial
        cases hSpecial
      · rw [accepts_escapedPattern_eq, beq_iff_eq] at hAccepts
        rw [hAccepts]
    exact ⟨s.isDirectory, found', hPath ▸ hFound, hf⟩

/-- The parts of a directory lead to where it is reached, if anywhere. -/
theorem exists_walk_of_parts {ns : List String} (hns : ∀ n ∈ ns, '/' ∉ n.toList) {flag : Bool}
    {found : List (Spot Path)}
    (hWalk : tree.disk.walk (ns.map (fun n => escapedPattern n.toList) ++ rest) ⟨path, flag⟩ =
      some found)
    {f : Spot Path} (hf : f ∈ found) :
    ∃ flag' found', tree.disk.walk rest ⟨ns.foldl enter path, flag'⟩ = some found' ∧
      f ∈ found' := by
  induction ns generalizing path flag found with
  | nil => exact ⟨flag, found, hWalk, hf⟩
  | cons n ns ih =>
    obtain ⟨hn, hRest⟩ := List.forall_mem_cons.1 hns
    obtain ⟨flag', found', hNext, hf'⟩ := exists_walk_of_part hn hWalk hf
    exact ih hRest hNext hf'

/-- What lies below a spot is listed in the directory there. -/
theorem exists_of_mem_allBelow {s : Spot Path} {found : List (Entry Path)}
    (hFound : tree.disk.allBelow s = some found) {e : Entry Path} (he : e ∈ found) :
    ∃ entries x, tree.find? s.path = some (.dir entries) ∧ x ∈ (FileTree.dir entries).listing ∧
      e = FileTree.listedAt (listedFrom s.path) x := by
  rw [Disk.allBelow] at hFound
  split at hFound
  · obtain ⟨entries, hDirectory, rfl⟩ := FileTree.exists_of_below hFound
    obtain ⟨x, hx, rfl⟩ := List.mem_map.1 he
    exact ⟨entries, x, hDirectory, hx, rfl⟩
  · cases hFound
    cases he


/-- **What a file pattern finds lies below the directory** and has the
extension, wherever the search for it began. -/
theorem exists_of_mem_find (h : tree.WellFormed) (hDir : dir.text ≠ "") {extension : String}
    (hSlash : '/' ∉ extension.toList) {paths : List Path}
    (hFind : find tree.disk (filePattern dir extension) = .ok paths) {p : Path} (hp : p ∈ paths) :
    ∃ q, extensionPattern? extension = some q ∧
      ∃ names name, (∀ n ∈ names ++ [name], IsEntryName n) ∧
        p = (base dir).descend (names ++ [name]) ∧ q.accepts name.toList = true := by
  have hSome : (extensionPattern? extension).isSome = true := by
    rw [← isPattern_extensionText hSlash, ← isPattern_filePattern hDir]
    by_contra hNot
    obtain ⟨fault, hBad⟩ := (find_eq_badPattern_iff (d := tree.disk)).2 hNot
    cases hFind.symm.trans hBad
  obtain ⟨q, hq⟩ := Option.isSome_iff_exists.1 hSome
  have hStars : (⟨[.anyDirectories]⟩ : Pattern).isRecursive = true := rfl
  have hLast := isRecursive_of_extensionPattern? hSlash hq
  rw [find_of_patterns (patterns_filePattern hDir hSlash hq), search_filePattern _ hSlash,
    start_filePattern tree hDir] at hFind
  split at hFind
  · cases hFind
  · rename_i found hWalk
    cases hFind
    obtain ⟨f, hf, rfl⟩ := List.mem_map.1 hp
    obtain ⟨flag, found', hBelow, hf⟩ :=
      exists_walk_of_parts (Path.not_mem_stepNames dir) hWalk hf
    rw [walk_below_last hStars hLast] at hBelow
    obtain ⟨listed, hListed, rfl⟩ := Option.map_eq_some_iff.1 hBelow
    obtain ⟨e, he, rfl⟩ := List.mem_map.1 hf
    obtain ⟨hMem, hAccepts⟩ := List.mem_filter.1 he
    obtain ⟨entries, ⟨names, t⟩, hDirectory, hx, rfl⟩ := exists_of_mem_allBelow hListed hMem
    have hWell := h.find? hDirectory
    obtain ⟨hNe, hAt⟩ := (FileTree.mem_listing hWell).1 hx
    obtain ⟨front, name, rfl⟩ : ∃ front name, names = front ++ [name] :=
      ⟨_, _, (List.dropLast_append_getLast hNe).symm⟩
    refine ⟨q, hq, front, name, (hWell.at? hAt).2, rfl, ?_⟩
    rw [Pattern.acceptsEntry, FileTree.listedAt, Option.any_some, List.getLast?_concat,
      Option.getD_some] at hAccepts
    exact hAccepts

-- ---------------------------------------------------------------------------
-- Absolute paths
-- ---------------------------------------------------------------------------

theorem isAbsolute_enter (hPath : path.isAbsolute = true) (name : String) :
    (tree.disk.enter path name).isAbsolute = true := by
  have hHere : ¬ tree.disk.isHere path = true := fun hHere =>
    components_ne_of_isAbsolute hPath (of_decide_eq_true hHere)
  rw [Disk.enter, if_neg hHere]
  exact Path.isAbsolute_child hPath name

theorem isAbsolute_of_mem_allBelow {s : Spot Path} (hPath : s.path.isAbsolute = true)
    {found : List (Entry Path)} (hFound : tree.disk.allBelow s = some found) {e : Entry Path}
    (he : e ∈ found) : e.path.isAbsolute = true := by
  obtain ⟨entries, x, -, -, rfl⟩ := exists_of_mem_allBelow hFound he
  rw [listedFrom_of_isAbsolute hPath]
  exact Path.isAbsolute_descend hPath _

theorem isAbsolute_of_mem_nextSpots {p : Pattern} {s : Spot Path}
    (hPath : s.path.isAbsolute = true) {next : List (Spot Path)}
    (hNext : tree.disk.nextSpots p s = some next) {t : Spot Path} (ht : t ∈ next) :
    t.path.isAbsolute = true := by
  rcases exists_of_mem_nextSpots hNext ht with hSpecial | ⟨name, flag, -, rfl⟩
  · rw [Disk.special] at hSpecial
    split at hSpecial
    · obtain ⟨name, -, rfl⟩ := List.mem_map.1 hSpecial
      exact Path.isAbsolute_child hPath name
    · cases hSpecial
  · rw [enter_of_isAbsolute hPath]
    exact Path.isAbsolute_child hPath name

/-- Whatever is found from an absolute path is absolute. -/
theorem isAbsolute_of_mem_walk {ps : List Pattern} {s : Spot Path}
    (hPath : s.path.isAbsolute = true) {found : List (Spot Path)}
    (hWalk : tree.disk.walk ps s = some found) {f : Spot Path} (hf : f ∈ found) :
    f.path.isAbsolute = true := by
  fun_induction Disk.walk tree.disk ps s generalizing found f
  case case1 =>
    cases hWalk
    rw [List.mem_singleton.1 hf]
    exact hPath
  case case2 =>
    obtain ⟨listed, hListed, rfl⟩ := Option.map_eq_some_iff.1 hWalk
    obtain ⟨e, he, rfl⟩ := List.mem_map.1 hf
    exact isAbsolute_of_mem_allBelow hPath hListed (List.mem_of_mem_filter he)
  case case3 ih => exact ih hPath hWalk hf
  case case4 ih =>
    obtain ⟨listed, hListed, hWalk⟩ := Option.bind_eq_some_iff.1 hWalk
    rw [← Function.comp_def, ← List.mapM_map] at hWalk
    obtain ⟨s, hs, found', hFound, hf⟩ := exists_of_mem_flatten hWalk hf
    obtain ⟨e, he, rfl⟩ := List.mem_map.1 hs
    exact ih e (isAbsolute_of_mem_allBelow hPath hListed (List.mem_of_mem_filter he)) hFound hf
  case case5 ih => exact ih (isAbsolute_enter hPath _) hWalk hf
  case case6 =>
    cases hWalk
    cases hf
  case case7 ih =>
    obtain ⟨next, hNext, hWalk⟩ := Option.bind_eq_some_iff.1 hWalk
    obtain ⟨s, hs, found', hFound, hf⟩ := exists_of_mem_flatten hWalk hf
    exact ih s (isAbsolute_of_mem_nextSpots hPath hNext hs) hFound hf

/-- A file pattern of an absolute directory finds absolute paths only. -/
theorem isAbsolute_of_mem_find {extension : String} (hDir : dir.isAbsolute = true)
    {paths : List Path} (hFind : find tree.disk (filePattern dir extension) = .ok paths)
    {found : Path} (h : found ∈ paths) : found.isAbsolute = true := by
  have hText := Path.text_ne_of_isAbsolute hDir
  rw [find] at hFind
  split at hFind
  · cases hFind
  · rename_i ps _
    rw [Disk.search, start_filePattern tree hText, origin, if_pos hDir] at hFind
    split at hFind
    · cases hFind
    · rename_i spots hWalk
      cases hFind
      obtain ⟨f, hf, rfl⟩ := List.mem_map.1 h
      have hMem : f ∈ spots := by
        split at hf
        · exact List.mem_of_mem_filter hf
        · exact hf
      exact isAbsolute_of_mem_walk (by decide : (⟨"/"⟩ : Path).isAbsolute = true) hWalk hMem

end SourceLint.Glob
