import SourceLint.Glob.Disk
import SourceLint.Proofs.FileTree.Outline

/-!
# File trees as disks

What a directory lists, and all that lies below it, is told by the listing of
its tree. All below it can be read only if the system takes the paths of all
directories there (`fitsBelow`). Nothing that is asked depends on what is in the
files (`disk_outline`).

* `allBelow_eq`   — what lies below a directory, if it can be read.
* `spotAt_disk`   — what is known of a path that leads somewhere.
* `disk_outline`  — the outline of a tree answers like the tree.
-/

namespace SourceLint.FileTree

variable {tree sub : FileTree} {path : Path} {entries : List (String × FileTree)}

-- ---------------------------------------------------------------------------
-- What lies below a directory
-- ---------------------------------------------------------------------------

/-- The system takes the paths of all directories below the tree at the path. -/
def fitsBelow (t : FileTree) (path : Path) : Bool :=
  t.listing.all fun x => !x.2.isDirectory || takes (path.descend x.1)

theorem fitsBelow_iff {t : FileTree} :
    t.fitsBelow path = true ↔ ∀ x ∈ t.listing, x.2.isDirectory = true →
      (path.descend x.1).text.utf8ByteSize ≤ maxPathBytes := by
  rw [fitsBelow, List.all_eq_true]
  refine forall₂_congr fun x _ => ?_
  cases x.2.isDirectory <;> simp [takes]

/-- What does not fit is a directory to which some names lead. -/
theorem fitsBelow_eq_false_iff {t : FileTree} (h : t.WellFormed) :
    t.fitsBelow path = false ↔ ∃ names entries, names ≠ [] ∧ at? names t = some (dir entries) ∧
      maxPathBytes < (path.descend names).text.utf8ByteSize := by
  rw [← Bool.not_eq_true, fitsBelow_iff]
  simp only [not_forall, Nat.not_le, exists_prop]
  constructor
  · rintro ⟨⟨names, u⟩, hMem, hDirectory, hSize⟩
    obtain ⟨hNe, hAt⟩ := (mem_listing h).1 hMem
    cases u with
    | file content => cases hDirectory
    | dir entries => exact ⟨names, entries, hNe, hAt, hSize⟩
  · rintro ⟨names, entries, hNe, hAt, hSize⟩
    exact ⟨(names, dir entries), (mem_listing h).2 ⟨hNe, hAt⟩, rfl, hSize⟩

/-- What is listed below a path, as an entry. -/
def listedAt (path : Path) (x : List String × FileTree) : Glob.Entry Path :=
  ⟨⟨path.descend x.1, x.2.isDirectory⟩, some (x.1.getLast?.getD "")⟩

theorem allBelow_eq (path : Path) (t : FileTree) :
    t.allBelow path = if t.fitsBelow (listedFrom path)
      then some (t.listing.map (listedAt (listedFrom path))) else none := by
  rw [allBelow, contents_eq, fitsBelow, List.all_map, List.map_map]
  rfl

-- ---------------------------------------------------------------------------
-- What the tree answers
-- ---------------------------------------------------------------------------

theorem disk_isDirectory? (h : path.text ≠ "") :
    tree.disk.isDirectory? path = (tree.find? path).map isDirectory :=
  if_neg h

/-- A path that leads somewhere is known to be a directory or not. -/
theorem spotAt_disk (h : path.text ≠ "")
    (hFind : tree.find? path = some sub) : tree.disk.spotAt path = ⟨path, sub.isDirectory⟩ := by
  rw [Glob.Disk.spotAt, disk_isDirectory? h, hFind]
  rfl

theorem list_disk (hFind : tree.find? path = some (.dir entries)) :
    tree.disk.list path = some (entriesAt path entries) := by
  simp only [disk, hFind]

theorem below_disk (hFind : tree.find? path = some (.dir entries)) :
    tree.disk.below path = (dir entries).allBelow path := by
  simp only [disk, hFind]

/-- What can be listed is a directory. -/
theorem exists_of_list {found : List (Glob.Entry Path)}
    (h : tree.disk.list path = some found) :
    ∃ entries, tree.find? path = some (.dir entries) ∧ found = entriesAt path entries := by
  simp only [disk] at h
  split at h
  · cases h
    exact ⟨_, ‹_›, rfl⟩
  · cases h

theorem exists_of_below {found : List (Glob.Entry Path)}
    (h : tree.disk.below path = some found) :
    ∃ entries, tree.find? path = some (.dir entries) ∧
      found = (dir entries).listing.map (listedAt (listedFrom path)) := by
  simp only [disk] at h
  split at h
  · rw [allBelow_eq] at h
    split at h
    · cases h
      exact ⟨_, ‹_›, rfl⟩
    · cases h
  · cases h

-- ---------------------------------------------------------------------------
-- The outline
-- ---------------------------------------------------------------------------

theorem entriesAt_outline (path : Path) (entries : List (String × FileTree)) :
    entriesAt path (outlineEntries entries) = entriesAt path entries := by
  rw [entriesAt, entriesAt, outlineEntries_eq_map, List.map_map]
  refine List.map_congr_left fun e _ => ?_
  simp only [Function.comp_apply, isDirectory_outline]

theorem allBelow_outline (path : Path) (t : FileTree) :
    t.outline.allBelow path = t.allBelow path := by
  rw [allBelow, allBelow, contents_outline, List.all_map, List.map_map]
  simp only [Function.comp_def, Found.entry, isDirectory_outline]
  rfl

/-- **No search reads a file.** -/
theorem disk_outline (tree : FileTree) : tree.outline.disk = tree.disk := by
  have hFind : ∀ path, tree.outline.find? path = (tree.find? path).map outline :=
    fun path => find?_outline tree path
  have hDirectory : isDirectory ∘ outline = isDirectory := funext isDirectory_outline
  have hList : tree.outline.disk.list = tree.disk.list := by
    funext path
    simp only [disk, hFind]
    rcases tree.find? path with _ | _ | entries
    · rfl
    · rfl
    · exact congrArg some (entriesAt_outline path entries)
  have hBelow : tree.outline.disk.below = tree.disk.below := by
    funext path
    simp only [disk, hFind]
    rcases tree.find? path with _ | _ | entries
    · rfl
    · rfl
    · exact allBelow_outline path (.dir entries)
  have hKind : tree.outline.disk.isDirectory? = tree.disk.isDirectory? := by
    funext path
    simp only [disk, hFind, Option.map_map, hDirectory]
  exact Glob.Disk.ext rfl rfl rfl hKind hList hBelow

end SourceLint.FileTree
