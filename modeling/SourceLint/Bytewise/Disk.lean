import SourceLint.Bytewise.Text
import SourceLint.Glob.Disk

/-!
# File trees byte by byte

A tree whose names and paths are bytes. What steps do is the same as where they
are text. But the length of a path is that of its bytes, a pattern is spelled
before it is looked up, and a name is matched only if it spells a text.

* `find?` — what a path leads to;
* `disk` — what a search sees.
-/

namespace SourceLint.Bytewise

open FileTree (Found listedFrom maxPathBytes)

/-- The system takes the path. -/
def takes (path : Path) : Bool :=
  path.text.length ≤ maxPathBytes

/-- What the path leads to from the top of the tree. -/
def find? (tree : FileTree) (path : Path) : Option FileTree :=
  if takes path then (tree.follow? path).map (·.here) else none

/-- There is a directory at the path. -/
def hasDir (tree : FileTree) (path : Path) : Bool :=
  (find? tree path).any FileTree.isDirectory

/-- There is a regular file at the path. -/
def hasFile (tree : FileTree) (path : Path) : Bool :=
  (find? tree path).any (!·.isDirectory)

/-- The text of the file at the path, if its bytes are text. -/
def fileText? (tree : FileTree) (path : Path) : Option String :=
  ((find? tree path).bind FileTree.content?).bind String.fromUTF8?

/-- The entry with its name as text, if the name spells one. -/
def readName (e : Glob.Entry Path) : Glob.Entry Path :=
  { e with name? := e.name?.bind text? }

/-- All that lies below a directory at the path, if the system takes the paths
of all directories there. -/
def allBelow (path : Path) (t : FileTree) : Option (List (Glob.Entry Path)) :=
  let found := t.contents (listedFrom path)
  if found.all fun f => !f.tree.isDirectory || takes f.path then
    some (found.map fun f => readName f.entry)
  else none

/-- The tree as a disk. -/
def disk (tree : FileTree) : Glob.Disk Path where
  ofText text := ⟨spell text⟩
  join path name := path.child (spell name)
  isHere path := path.components = [.here]
  isDirectory? path :=
    if path.text = "" then none else (find? tree path).map FileTree.isDirectory
  list path := match find? tree path with
    | some (.dir entries) => some ((FileTree.entriesAt path entries).map readName)
    | _ => none
  below path := match find? tree path with
    | some (.dir entries) => allBelow path (.dir entries)
    | _ => none

end SourceLint.Bytewise
