import SourceLint.Bytewise.Disk
import SourceLint.Proofs.Bytewise.Path
import SourceLint.Proofs.FileTree.Disk
import SourceLint.Proofs.Glob.Map

/-!
# File trees in bytes

A tree of texts is a tree of bytes once its names are spelled. A path leads to
the same place in both, and the disk of the one stands for that of the other
(`maps_disk`). So a search finds the same, as far as the pattern of the search
is the same text.

* `spellTree`          — the tree in bytes.
* `find?_spellTree`    — what a path leads to.
* `maps_disk`          — what a search sees.
-/

namespace SourceLint.Bytewise

open FileTree (Place Found listedFrom)

-- ---------------------------------------------------------------------------
-- The tree
-- ---------------------------------------------------------------------------

mutual

/-- The tree with its names in bytes. -/
def spellTree : FileTree → FileTree
  | .file content => .file content
  | .dir entries => .dir (spellEntries entries)

/-- The entries with all names in bytes. -/
def spellEntries : List (String × FileTree) → List (String × FileTree)
  | [] => []
  | (name, t) :: rest => (spell name, spellTree t) :: spellEntries rest

end

/-- The entry with all names in bytes. -/
def spellEntry (e : String × FileTree) : String × FileTree :=
  (spell e.1, spellTree e.2)

theorem spellEntries_eq_map (entries : List (String × FileTree)) :
    spellEntries entries = entries.map spellEntry := by
  induction entries with
  | nil => rfl
  | cons e entries ih =>
    obtain ⟨name, t⟩ := e
    rw [spellEntries, ih, List.map_cons, spellEntry]

theorem spellTree_dir (entries : List (String × FileTree)) :
    spellTree (.dir entries) = .dir (entries.map spellEntry) := by
  rw [spellTree, spellEntries_eq_map]

/-- Spelling keeps names apart, and keeps those that mean something to a path. -/
theorem renames_spellTree : FileTree.Renames spellTree spell spellChars where
  file _ := rfl
  dir := spellTree_dir
  injective := spell_injective
  ofList m := by rw [spell, String.toList_ofList]
  silent _ := or_congr spellChars_eq_nil_iff spellChars_eq_here_iff
  up _ := spellChars_eq_up_iff

theorem isDirectory_spellTree (t : FileTree) : (spellTree t).isDirectory = t.isDirectory :=
  renames_spellTree.isDirectory t

theorem content?_spellTree (t : FileTree) : (spellTree t).content? = t.content? := by
  cases t <;> rfl

-- ---------------------------------------------------------------------------
-- Resolving paths
-- ---------------------------------------------------------------------------

/-- A path leads to the same place in bytes. -/
theorem follow?_spellTree (t : FileTree) (p : Path) :
    (spellTree t).follow? (spelled p) = (t.follow? p).map (Place.rename spellTree spell) :=
  renames_spellTree.follow? t (steps_spelled p)

/-- The length of a path is that of its bytes. -/
theorem takes_spelled (p : Path) : takes (spelled p) = FileTree.takes p := by
  rw [takes, FileTree.takes, spelled, length_spell]

theorem find?_spellTree (t : FileTree) (p : Path) :
    find? (spellTree t) (spelled p) = (t.find? p).map spellTree := by
  rw [find?, takes_spelled, FileTree.takes, follow?_spellTree, FileTree.find?_eq]
  simp only [decide_eq_true_eq]
  split
  · rw [Option.map_map, Option.map_map]
    rfl
  · rfl

theorem hasDir_spellTree (t : FileTree) (p : Path) :
    hasDir (spellTree t) (spelled p) = t.hasDir p := by
  rw [hasDir, FileTree.hasDir, find?_spellTree, Option.any_map]
  congr 1
  exact funext isDirectory_spellTree

theorem hasFile_spellTree (t : FileTree) (p : Path) :
    hasFile (spellTree t) (spelled p) = t.hasFile p := by
  rw [hasFile, FileTree.hasFile, find?_spellTree, Option.any_map]
  congr 1
  exact funext fun u => congrArg not (isDirectory_spellTree u)

theorem fileText?_spellTree (t : FileTree) (p : Path) :
    fileText? (spellTree t) (spelled p) = t.text? p := by
  rw [fileText?, FileTree.text?, FileTree.bytes?, find?_spellTree, Option.bind_map]
  congr 2
  exact funext content?_spellTree

-- ---------------------------------------------------------------------------
-- Listing
-- ---------------------------------------------------------------------------

/-- What is found, in bytes. -/
def spellFound (found : Found) : Found :=
  ⟨spelled found.path, spell found.name, spellTree found.tree⟩

/-- The listing of the bytes has the bytes of the listing. -/
theorem contents_spellTree (t : FileTree) (p : Path) :
    (spellTree t).contents (spelled p) = (t.contents p).map spellFound :=
  renames_spellTree.contents (fun p n => (spelled_child p n).symm) t p

theorem listedFrom_spelled (p : Path) : listedFrom (spelled p) = spelled (listedFrom p) := by
  rw [listedFrom, listedFrom]
  simp only [components_spelled_eq_here_iff]
  split <;> rfl

theorem entriesAt_spellTree (p : Path) (entries : List (String × FileTree)) :
    (FileTree.entriesAt (spelled p) (entries.map spellEntry)).map readName =
      (FileTree.entriesAt p entries).map (Glob.Entry.map spelled) := by
  rw [FileTree.entriesAt, FileTree.entriesAt, List.map_map, List.map_map, List.map_map]
  refine List.map_congr_left fun e _ => ?_
  simp only [Function.comp_apply, spellEntry, readName, listedFrom_spelled, ← spelled_child,
    isDirectory_spellTree, Option.bind_some, text?_spell]
  rfl

theorem allBelow_spellTree (p : Path) (t : FileTree) :
    allBelow (spelled p) (spellTree t) =
      (t.allBelow p).map (List.map (Glob.Entry.map spelled)) := by
  have hEntry : ∀ f : Found, readName (spellFound f).entry = f.entry.map spelled := by
    intro f
    simp only [Found.entry, spellFound, readName, isDirectory_spellTree, Option.bind_some,
      text?_spell]
    rfl
  have hFits : ∀ f : Found, (!(spellFound f).tree.isDirectory || takes (spellFound f).path) =
      (!f.tree.isDirectory || FileTree.takes f.path) := by
    intro f
    rw [spellFound, isDirectory_spellTree, takes_spelled]
  rw [allBelow, FileTree.allBelow, listedFrom_spelled, contents_spellTree, List.all_map,
    List.map_map]
  simp only [Function.comp_def, hEntry, hFits]
  split
  · rw [Option.map_some, List.map_map]
    rfl
  · rfl

/-- **What a search asks of the bytes, it is told in bytes.** -/
theorem maps_disk (tree : FileTree) : tree.disk.Maps spelled (disk (spellTree tree)) where
  ofText _ := rfl
  join path name := (spelled_child path name).symm
  isHere path := by
    simp only [disk, FileTree.disk, components_spelled_eq_here_iff]
  isDirectory? path := by
    have hEmpty : (spelled path).text = "" ↔ path.text = "" :=
      spell_injective.eq_iff (b := "")
    have hKind : FileTree.isDirectory ∘ spellTree = FileTree.isDirectory :=
      funext isDirectory_spellTree
    simp only [disk, FileTree.disk, hEmpty, find?_spellTree, Option.map_map, hKind]
  list path := by
    simp only [disk, FileTree.disk, find?_spellTree]
    rcases tree.find? path with _ | _ | entries
    · rfl
    · rfl
    · simp only [Option.map_some, spellTree_dir]
      exact congrArg some (entriesAt_spellTree path entries)
  below path := by
    simp only [disk, FileTree.disk, find?_spellTree]
    rcases tree.find? path with _ | _ | entries
    · rfl
    · rfl
    · exact allBelow_spellTree path (.dir entries)

end SourceLint.Bytewise
