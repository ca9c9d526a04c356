import SourceLint.Path.Basic

/-!
# File trees

The part of a file system that a run can see: directories and regular files,
with the root directory on top. There are no links, so `..` always leads back
the way a path came.

A directory lists its entries in increasing order of their names.

* `FileTree.find?` — what a path leads to, as an operating system resolves it;
* `FileTree.contents` — all that lies below a directory;
* `FileTree.write`, `FileTree.makeDir`, `FileTree.remove?` — changes at a place
  that is given by its names;
* `FileTree.writeFile`, `FileTree.makeDirs`, `FileTree.removeFile?` — changes
  at the end of a path.
-/

namespace SourceLint

/-- A regular file with its bytes, or a directory with its entries. -/
inductive FileTree where
  | file (content : ByteArray)
  | dir (entries : List (String × FileTree))

namespace FileTree

/-- This is a directory. -/
def isDirectory : FileTree → Bool
  | .dir _ => true
  | .file _ => false

/-- The bytes of a file. -/
def content? : FileTree → Option ByteArray
  | .file content => some content
  | .dir _ => none

/-- The entries of a directory; a file has none. -/
def entries : FileTree → List (String × FileTree)
  | .dir entries => entries
  | .file _ => []

mutual

/-- The names of every directory increase. -/
def Ordered : FileTree → Prop
  | .file _ => True
  | .dir entries => (entries.map Prod.fst).Pairwise (· < ·) ∧ OrderedEntries entries

/-- What the entries hold is ordered. -/
def OrderedEntries : List (String × FileTree) → Prop
  | [] => True
  | (_, t) :: rest => Ordered t ∧ OrderedEntries rest

end

-- ---------------------------------------------------------------------------
-- Resolving paths
-- ---------------------------------------------------------------------------

/-- A place in a tree, with the way back to the top: the directories above it,
each with the name that was taken there. -/
structure Place where
  here : FileTree
  above : List (String × FileTree)

/-- The names that lead from the top to the place. -/
def Place.names (p : Place) : List String :=
  (p.above.map Prod.fst).reverse

/-- One step from a place. Only a directory has anything behind it; an empty
step and `.` stay, and `..` stays at the top. -/
def Place.step (p : Place) (name : List Char) : Option Place :=
  match p.here with
  | .file _ => none
  | .dir entries =>
    if name = [] ∨ name = ['.'] then some p
    else if name = ['.', '.'] then match p.above with
      | [] => some p
      | (_, parent) :: above => some ⟨parent, above⟩
    else
      let name := String.ofList name
      (entries.lookup name).map fun child => ⟨child, (name, p.here) :: p.above⟩

/-- A path of more bytes leads nowhere. -/
def maxPathBytes : Nat :=
  4095

/-- Where the steps of the path lead from the top of the tree. -/
def follow? (t : FileTree) (p : Path) : Option Place :=
  (Path.splitSlash p.text.toList).foldlM Place.step ⟨t, []⟩

/-- Where the path leads from a directory. The length of the way to the
directory does not count. -/
def placeIn? (t : FileTree) (directory p : Path) : Option Place :=
  if p.text.utf8ByteSize ≤ maxPathBytes then t.follow? (directory.join p) else none

/-- What the path leads to from a directory. -/
def findIn? (t : FileTree) (directory p : Path) : Option FileTree :=
  (t.placeIn? directory p).map (·.here)

/-- What the path leads to from the top of the tree. -/
def find? (t : FileTree) (p : Path) : Option FileTree :=
  t.findIn? ⟨"/"⟩ p

/-- There is a directory at the path. -/
def hasDir (t : FileTree) (p : Path) : Bool :=
  (t.find? p).any isDirectory

/-- There is a regular file at the path. -/
def hasFile (t : FileTree) (p : Path) : Bool :=
  (t.find? p).any (!·.isDirectory)

/-- The bytes of the file at the path. -/
def bytes? (t : FileTree) (p : Path) : Option ByteArray :=
  (t.find? p).bind content?

/-- The text of the file at the path, if its bytes are text. -/
def text? (t : FileTree) (p : Path) : Option String :=
  (t.bytes? p).bind String.fromUTF8?

-- ---------------------------------------------------------------------------
-- Listing
-- ---------------------------------------------------------------------------

/-- Something in a tree, with its path and its name. -/
structure Found where
  path : Path
  name : String
  tree : FileTree

mutual

/-- All that lies below the tree at the path; a directory stands in front of
what is in it. -/
def contents (path : Path) : FileTree → List Found
  | .file _ => []
  | .dir entries => contentsOfEntries path entries

/-- The entries of the directory at the path, each in front of what lies below
it. -/
def contentsOfEntries (path : Path) : List (String × FileTree) → List Found
  | [] => []
  | (name, t) :: rest =>
    ⟨path.child name, name, t⟩ :: contents (path.child name) t ++ contentsOfEntries path rest

end

-- ---------------------------------------------------------------------------
-- Changes
-- ---------------------------------------------------------------------------

/-- The entries with the name set, in their order. -/
def setEntry (name : String) (t : FileTree) : List (String × FileTree) → List (String × FileTree)
  | [] => [(name, t)]
  | (n, u) :: rest =>
    if n < name then (n, u) :: setEntry name t rest
    else if n = name then (name, t) :: rest
    else (name, t) :: (n, u) :: rest

/-- The tree with another one at the place that the names lead to. Directories
on the way are made; below a file nothing is put. -/
def put (sub : FileTree) : List String → FileTree → FileTree
  | [], _ => sub
  | _ :: _, .file old => .file old
  | name :: names, .dir entries =>
    .dir (setEntry name (put sub names ((entries.lookup name).getD (.dir []))) entries)

/-- The tree with a file of the given bytes at the place. -/
def write (content : ByteArray) (names : List String) (t : FileTree) : FileTree :=
  put (.file content) names t

/-- The tree with a directory at the place that the names lead to, unless
something is there. -/
def makeDir : List String → FileTree → FileTree
  | [], t => t
  | _ :: _, .file old => .file old
  | name :: names, .dir entries =>
    .dir (setEntry name (makeDir names ((entries.lookup name).getD (.dir []))) entries)

/-- The tree without the file that the names lead to, if there is one. -/
def remove? : List String → FileTree → Option FileTree
  | [], _ => none
  | _ :: _, .file _ => none
  | [name], .dir entries => match entries.lookup name with
    | some (.file _) => some (.dir (entries.filter (·.1 ≠ name)))
    | _ => none
  | name :: names, .dir entries => match entries.lookup name with
    | some t => (remove? names t).map fun t => .dir (setEntry name t entries)
    | none => none

end FileTree

-- ---------------------------------------------------------------------------
-- Places by their names
-- ---------------------------------------------------------------------------

/-- One component further on, as a list of names from the top. -/
def Path.Component.follow (names : List String) : Path.Component → List String
  | .root => []
  | .here => names
  | .up => names.dropLast
  | .name s => names ++ [s]

/-- The names that lead from the top of a tree to the end of the path. -/
def Path.place (p : Path) : List String :=
  p.components.foldl Component.follow []

/-- The places that the components lead to one after the other. -/
def Path.Component.stops (names : List String) : List Path.Component → List (List String)
  | [] => []
  | c :: cs => c.follow names :: stops (c.follow names) cs

/-- The plain path to a place. -/
def Path.ofPlace (names : List String) : Path :=
  ⟨"/" ++ "/".intercalate names⟩

namespace FileTree

/-- The tree with a directory at every stop of the way, unless something is
there. -/
def makeWay (way : List Path.Component) (t : FileTree) : FileTree :=
  (Path.Component.stops [] way).foldl (fun t names => t.makeDir names) t

/-- The tree with a directory at the path and at every stop on the way. -/
def makeDirs (p : Path) (t : FileTree) : FileTree :=
  t.makeWay p.components

/-- The tree with a file of the given bytes at the path, and with directories
on the way. -/
def writeFile (content : ByteArray) (p : Path) (t : FileTree) : FileTree :=
  (t.makeWay p.components.dropLast).write content p.place

/-- The tree without the file at the path, if there is one. -/
def removeFile? (p : Path) (t : FileTree) : Option FileTree :=
  (t.placeIn? ⟨"/"⟩ p).bind fun place => t.remove? place.names

end FileTree

end SourceLint
