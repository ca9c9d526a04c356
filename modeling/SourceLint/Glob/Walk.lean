import SourceLint.Glob.Disk
import SourceLint.Glob.Match

/-!
# Searching along a pattern

A path is found component by component: each part of the pattern between two
slashes is matched with one name, and `**` with any number of directories.
Names are tried in their order, and a directory comes before what is in it. A
search fails where a directory cannot be read.

* `Disk.walk` — the spots along a list of patterns;
* `find` — the paths that the text of a pattern describes.
-/

namespace SourceLint.Glob

/-- The pattern describes the name of the entry. A name that is no text is not
described. -/
def Pattern.acceptsEntry {P : Type} (p : Pattern) (e : Entry P) : Bool :=
  e.name?.any fun name => p.accepts name.toList

namespace Disk

variable {P : Type} (d : Disk P)

/-- A literal part leads on from the spot: `.` and `..` need a directory here,
any other name needs its entry. -/
def leadsOn (s : Spot P) (name : String) : Bool :=
  if name = "." ∨ name = ".." then s.isDirectory
  else (d.isDirectory? (d.enter s.path name)).isSome

/-- The special names `..` and `.`, which take part only in a pattern that
begins with a dot. -/
def special (p : Pattern) (path : P) : List (Spot P) :=
  if p.tokens.head? = some (.char '.') then
    (["..", "."].filter fun name => p.accepts name.toList).map fun name =>
      d.spotAt (d.join path name)
  else []

/-- The spots one step on whose names the pattern describes. -/
def nextSpots (p : Pattern) (s : Spot P) : Option (List (Spot P)) :=
  if s.isDirectory then
    (d.list s.path).map fun entries =>
      d.special p s.path ++ (entries.filter p.acceptsEntry).map (·.toSpot)
  else some []

/-- All that lies below the spot. -/
def allBelow (s : Spot P) : Option (List (Entry P)) :=
  if s.isDirectory then d.below s.path else some []

/-- The spots that the patterns lead to, one pattern for each step, if all
directories on the way can be read. At the end of the list `**` finds the
directories themselves. -/
def walk : List Pattern → Spot P → Option (List (Spot P))
  | [], s => some [s]
  | p :: rest, s =>
    if p.isRecursive then match rest with
      | [] => (d.allBelow s).map fun found => (found.filter (·.isDirectory)).map (·.toSpot)
      | q :: rest =>
        if q.isRecursive then walk (q :: rest) s
        else (d.allBelow s).bind fun found =>
          ((found.filter q.acceptsEntry).mapM fun e => walk rest e.toSpot).map List.flatten
    else match p.literal? with
      | some name =>
        if d.leadsOn s name then walk rest (d.spotAt (d.enter s.path name)) else some []
      | none => (d.nextSpots p s).bind fun next => (next.mapM fun s => walk rest s).map List.flatten

end Disk

/-- Why a search has no result. -/
inductive Failure where
  | badPattern (fault : Fault)
  /-- A directory on the way cannot be read. -/
  | unreadable
deriving DecidableEq, Repr

/-- The parts of a pattern's text between its slashes, without the slash in
front and the one at the end. -/
def parts (cs : List Char) : List (List Char) :=
  let body := if cs.head? = some '/' then cs.tail else cs
  let parts := Path.splitSlash body
  if parts.getLast? = some [] then parts.dropLast else parts

/-- The patterns of the parts of a pattern's text. The whole text is checked
before its parts. -/
def patterns (cs : List Char) : Except Fault (List Pattern) := do
  let _ ← Pattern.parse cs
  (parts cs).mapM Pattern.parse

/-- Where a search begins: at the root or in the current directory. -/
def Disk.start {P : Type} (d : Disk P) (cs : List Char) : Spot P :=
  d.spotAt (d.ofText (if cs.head? = some '/' then "/" else "."))

/-- The paths along the patterns of a text. A slash at its end asks for
directories. -/
def Disk.search {P : Type} (d : Disk P) (cs : List Char) (ps : List Pattern) :
    Except Failure (List P) :=
  match d.walk ps (d.start cs) with
  | none => .error .unreadable
  | some found =>
    .ok ((if cs.getLast? = some '/' then found.filter (·.isDirectory) else found).map (·.path))

/-- The paths on the disk that the text of a pattern describes. -/
def find {P : Type} (d : Disk P) (cs : List Char) : Except Failure (List P) :=
  match patterns cs with
  | .error fault => .error (.badPattern fault)
  | .ok ps => d.search cs ps

end SourceLint.Glob
