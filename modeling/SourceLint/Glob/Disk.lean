import SourceLint.FileTree

/-!
# What a search sees of a disk

A search asks what is at a path and what a directory lists. Of the paths it
needs to know no more than how one is made from a text and how it is continued,
so they may be of any kind.

What a directory lists is known to be a file or another directory without its
path being looked up. So a search can come to a directory whose path is too long
for the system, and cannot read it.

* `Spot`, `Entry` — where a search stands, and what a directory lists;
* `Disk` — what a search asks;
* `FileTree.disk` — the answers for a file tree.
-/

namespace SourceLint.Glob

/-- A path to which a search has come, and whether a directory is there. -/
structure Spot (P : Type) where
  path : P
  isDirectory : Bool
deriving DecidableEq, Repr

/-- What a directory lists, with its name if that is text. -/
structure Entry (P : Type) extends Spot P where
  name? : Option String
deriving DecidableEq, Repr

/-- What a search asks of a disk. -/
@[ext] structure Disk (P : Type) where
  /-- The path that is written so. -/
  ofText : String → P
  /-- The path continued by a relative one. -/
  join : P → String → P
  /-- The path is that of the current directory. -/
  isHere : P → Bool
  /-- Whether a directory is at the path, if anything is. -/
  isDirectory? : P → Option Bool
  /-- What the directory at the path lists, if it can be read. -/
  list : P → Option (List (Entry P))
  /-- All that lies below the directory at the path, if all directories can be
  read. A directory stands in front of what is in it. -/
  below : P → Option (List (Entry P))

namespace Disk

variable {P : Type} (d : Disk P)

/-- The spot at a path that is looked up. -/
def spotAt (path : P) : Spot P :=
  ⟨path, (d.isDirectory? path).getD false⟩

/-- The path continued by a name. In the current directory the name alone is
the path. -/
def enter (path : P) (name : String) : P :=
  if d.isHere path then d.ofText name else d.join path name

end Disk

end SourceLint.Glob

namespace SourceLint.FileTree

open Glob

/-- What stands in front of the names that a directory lists: nothing, if it is
the current one. -/
def listedFrom (path : Path) : Path :=
  if path.components = [.here] then ⟨""⟩ else path

/-- The system takes the path. -/
def takes (path : Path) : Bool :=
  path.text.utf8ByteSize ≤ maxPathBytes

/-- What is found as an entry. -/
def Found.entry (found : Found) : Entry Path :=
  ⟨⟨found.path, found.tree.isDirectory⟩, some found.name⟩

/-- The entries of a directory at the path. -/
def entriesAt (path : Path) (entries : List (String × FileTree)) : List (Entry Path) :=
  entries.map fun (name, t) => ⟨⟨(listedFrom path).child name, t.isDirectory⟩, some name⟩

/-- All that lies below a directory at the path, if the system takes the paths
of all directories there. -/
def allBelow (path : Path) (t : FileTree) : Option (List (Entry Path)) :=
  let found := t.contents (listedFrom path)
  if found.all fun f => !f.tree.isDirectory || takes f.path then some (found.map Found.entry)
  else none

/-- The tree as a disk. The empty path leads nowhere. -/
def disk (tree : FileTree) : Disk Path where
  ofText text := ⟨text⟩
  join := Path.child
  isHere path := path.components = [.here]
  isDirectory? path := if path.text = "" then none else (tree.find? path).map isDirectory
  list path := match tree.find? path with
    | some (.dir entries) => some (entriesAt path entries)
    | _ => none
  below path := match tree.find? path with
    | some (.dir entries) => allBelow path (.dir entries)
    | _ => none

end SourceLint.FileTree
