import SourceLint.Path.Basic

/-!
# Paths relative to a root

A path below a root is reported relative to it. The root is compared component
by component, so it may be spelled in another way than the beginning of the
path. What is left keeps its own spelling, but for the pieces at its two ends
that stand for no component.

* `Path.relativeTo?` — the rest of the path behind the root;
* `Path.relativeTo` — the same, or the path itself if the root does not lead
  to it.
-/

namespace SourceLint.Path

/-- The pieces behind the given components, if the pieces begin with them. -/
def dropComponents : List Component → List Piece → Option (List Piece)
  | [], ps => some ps
  | _ :: _, [] => none
  | c :: cs, p :: ps => match p.component? with
    | none => dropComponents (c :: cs) ps
    | some d => if c = d then dropComponents cs ps else none

/-- The pieces up to the last one that stands for a component. -/
def trimSilentEnd : List Piece → List Piece
  | [] => []
  | p :: ps => match trimSilentEnd ps with
    | [] => if p.component?.isNone then [] else [p]
    | q :: qs => p :: q :: qs

/-- The pieces from the first to the last one that stands for a component. -/
def trimSilent (ps : List Piece) : List Piece :=
  trimSilentEnd (ps.dropWhile (·.component?.isNone))

/-- The path with the given pieces. -/
def ofPieces : List Piece → Path
  | [p] => if p.component? = some .root then ⟨"/"⟩ else ⟨String.ofList p.text⟩
  | ps => ⟨String.ofList (['/'].intercalate (ps.map (·.text)))⟩

/-- The path behind `root`, if `root` leads to it. -/
def relativeTo? (p root : Path) : Option Path :=
  (dropComponents root.components p.pieces).map fun rest => ofPieces (trimSilent rest)

/-- The path behind `root`, or the path as it is if `root` does not lead to
it. -/
def relativeTo (p root : Path) : Path :=
  (p.relativeTo? root).getD p

end SourceLint.Path
