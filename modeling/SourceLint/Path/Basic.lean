/-!
# Paths

A path keeps the text it was written with, doubled slashes and `.` included,
because reports show that text. What it means is the list of its components:
two paths with the same components name the same file, and paths are ordered
component by component.

* `Path.pieces` — the parts between the slashes, each with the component it
  stands for;
* `Path.components` — the components alone;
* `Path.join` — a path continued by another.
-/

namespace SourceLint

/-- A path as it is written. -/
structure Path where
  text : String
deriving DecidableEq, Repr

namespace Path

/-- One step of a path. The order is that of the constructors, and names are
ordered by code point. -/
inductive Component where
  | root
  | here
  | up
  | name (name : String)
deriving DecidableEq, Ord, Repr

/-- A part of the text between two slashes, with the component it stands for;
an empty part and most `.` stand for none. -/
structure Piece where
  text : List Char
  component? : Option Component
deriving DecidableEq

/-- The parts between the slashes, the empty ones included. -/
def splitSlash : List Char → List (List Char)
  | [] => [[]]
  | c :: cs => match splitSlash cs with
    | [] => [[c]]
    | p :: ps => if c = '/' then [] :: p :: ps else (c :: p) :: ps

/-- A piece that is not the first of its path. -/
def innerPiece (cs : List Char) : Piece :=
  if cs = [] ∨ cs = ['.'] then ⟨cs, none⟩
  else if cs = ['.', '.'] then ⟨cs, some .up⟩
  else ⟨cs, some (.name (String.ofList cs))⟩

/-- The first piece of a path: an empty one in front of a slash is the root,
and `.` stands for itself. -/
def firstPiece (cs : List Char) (alone : Bool) : Piece :=
  if cs = [] then ⟨cs, if alone then none else some .root⟩
  else if cs = ['.'] then ⟨cs, some .here⟩
  else innerPiece cs

/-- The pieces of a path. -/
def pieces (p : Path) : List Piece :=
  match splitSlash p.text.toList with
  | [] => []
  | cs :: rest => firstPiece cs rest.isEmpty :: rest.map innerPiece

/-- The components of a path. -/
def components (p : Path) : List Component :=
  p.pieces.filterMap (·.component?)

/-- The component's name, if it has one. -/
def Component.name? : Component → Option String
  | .name s => some s
  | _ => none

/-- The names among the components of a path. -/
def names (p : Path) : List String :=
  p.components.filterMap Component.name?

/-- The path starts at the root. -/
def isAbsolute (p : Path) : Bool :=
  p.text.toList.head? = some '/'

/-- The order of paths: component by component. -/
def le (p q : Path) : Bool :=
  (compare p.components q.components).isLE

/-- The path continued by another one, which replaces it if it is absolute. -/
def join (p q : Path) : Path :=
  if q.isAbsolute then q
  else if p.text.toList = [] ∨ p.text.toList.getLast? = some '/' then ⟨p.text ++ q.text⟩
  else ⟨p.text ++ "/" ++ q.text⟩

/-- The path continued by one name. -/
def child (p : Path) (name : String) : Path :=
  p.join ⟨name⟩

-- ---------------------------------------------------------------------------
-- File names
-- ---------------------------------------------------------------------------

/-- The name at the end of the path; a path that ends in `..` or at the root
has none. -/
def fileName? (p : Path) : Option String :=
  p.components.getLast?.bind Component.name?

/-- A file name without its last extension. A dot in front does not start an
extension. -/
def stem (name : List Char) : List Char :=
  match name.reverse.dropWhile (· ≠ '.') with
  | [] => name
  | [_] => name
  | _ :: before => before.reverse

/-- The names of the directories that lead to the end of the path. -/
def directoryNames (p : Path) : List String :=
  p.components.dropLast.filterMap Component.name?

end Path

end SourceLint
