import SourceLint.Glob.Walk
import SourceLint.Proofs.Traverse

/-!
# One disk seen as another

Where the paths of one disk stand for paths of another, and all questions have
answers that stand for each other, a search on the one finds what stands for
what a search on the other finds (`find_map`). A search treats paths as what the
disk makes of them and no more.

* `Disk.Maps`  — answers that stand for each other.
* `walk_map`   — the spots along a list of patterns.
* `find_map`   — what a search finds.
-/

namespace SourceLint.Glob

variable {P Q : Type} {φ : P → Q} {d : Disk P} {d' : Disk Q}

/-- The spot that stands for another. -/
def Spot.map (φ : P → Q) (s : Spot P) : Spot Q :=
  ⟨φ s.path, s.isDirectory⟩

/-- The entry that stands for another. Its name is the same. -/
def Entry.map (φ : P → Q) (e : Entry P) : Entry Q :=
  ⟨e.toSpot.map φ, e.name?⟩

/-- What the second disk answers stands for what the first one answers. -/
structure Disk.Maps (φ : P → Q) (d : Disk P) (d' : Disk Q) : Prop where
  ofText : ∀ text, d'.ofText text = φ (d.ofText text)
  join : ∀ path text, d'.join (φ path) text = φ (d.join path text)
  isHere : ∀ path, d'.isHere (φ path) = d.isHere path
  isDirectory? : ∀ path, d'.isDirectory? (φ path) = d.isDirectory? path
  list : ∀ path, d'.list (φ path) = (d.list path).map (List.map (Entry.map φ))
  below : ∀ path, d'.below (φ path) = (d.below path).map (List.map (Entry.map φ))

namespace Disk.Maps

variable (h : d.Maps φ d')

include h

theorem spotAt (path : P) : d'.spotAt (φ path) = (d.spotAt path).map φ := by
  rw [Disk.spotAt, Disk.spotAt, h.isDirectory?, Spot.map]

theorem enter (path : P) (name : String) : d'.enter (φ path) name = φ (d.enter path name) := by
  rw [Disk.enter, Disk.enter, h.isHere]
  split
  · exact h.ofText name
  · exact h.join path name

theorem leadsOn (s : Spot P) (name : String) : d'.leadsOn (s.map φ) name = d.leadsOn s name := by
  rw [Disk.leadsOn, Disk.leadsOn, Spot.map, h.enter, h.isDirectory?]

theorem special (p : Pattern) (path : P) :
    d'.special p (φ path) = (d.special p path).map (Spot.map φ) := by
  rw [Disk.special, Disk.special]
  split
  · rw [List.map_map]
    exact List.map_congr_left fun name _ => by rw [h.join, h.spotAt, Function.comp_apply]
  · rfl

omit h in
/-- Entries are described by their names alone. -/
theorem filter_acceptsEntry (p : Pattern) (entries : List (Entry P)) :
    (entries.map (Entry.map φ)).filter p.acceptsEntry =
      (entries.filter p.acceptsEntry).map (Entry.map φ) :=
  List.filter_map

omit h in
theorem map_toSpot (entries : List (Entry P)) :
    (entries.map (Entry.map φ)).map (·.toSpot) = (entries.map (·.toSpot)).map (Spot.map φ) := by
  rw [List.map_map, List.map_map]
  rfl

theorem nextSpots (p : Pattern) (s : Spot P) :
    d'.nextSpots p (s.map φ) = (d.nextSpots p s).map (List.map (Spot.map φ)) := by
  rw [Disk.nextSpots, Disk.nextSpots]
  cases hDir : s.isDirectory with
  | false => simp only [Spot.map, hDir, Bool.false_eq_true, if_false]; rfl
  | true =>
    simp only [Spot.map, hDir, if_true, h.list, Option.map_map]
    congr 1
    funext entries
    rw [Function.comp_apply, Function.comp_apply, h.special, filter_acceptsEntry, map_toSpot,
      List.map_append]

theorem allBelow (s : Spot P) :
    d'.allBelow (s.map φ) = (d.allBelow s).map (List.map (Entry.map φ)) := by
  rw [Disk.allBelow, Disk.allBelow]
  cases hDir : s.isDirectory with
  | false => simp only [Spot.map, hDir, Bool.false_eq_true, if_false]; rfl
  | true => simp only [Spot.map, hDir, if_true, h.below]

end Disk.Maps

/-- **A walk goes the same way on both disks.** -/
theorem walk_map (h : d.Maps φ d') (ps : List Pattern) (s : Spot P) :
    d'.walk ps (s.map φ) = (d.walk ps s).map (List.map (Spot.map φ)) := by
  fun_induction Disk.walk d ps s with
  | case1 s => rfl
  | case2 p s hp =>
    rw [Disk.walk, if_pos hp, h.allBelow, Option.map_map, Option.map_map]
    congr 1
    funext found
    rw [Function.comp_apply, Function.comp_apply, ← Disk.Maps.map_toSpot, List.filter_map]
    rfl
  | case3 p s hp q rest hq ih => rw [Disk.walk, if_pos hp]; simp only [if_pos hq, ih]
  | case4 p s hp q rest hq ih =>
    rw [Disk.walk, if_pos hp]
    simp only [if_neg hq, h.allBelow]
    cases d.allBelow s with
    | none => rfl
    | some found =>
      rw [Option.map_some, Option.bind_some, Option.bind_some, Disk.Maps.filter_acceptsEntry]
      exact flatten_mapM_map fun e _ => ih e
  | case5 p rest s hp name hName hOn ih =>
    rw [Disk.walk.eq_def, ← ih, ← h.spotAt, ← h.enter]
    simp only [hp, hName, h.leadsOn, if_pos hOn]
    rfl
  | case6 p rest s hp name hName hOn =>
    rw [Disk.walk.eq_def]
    simp only [hp, hName, h.leadsOn, if_neg hOn]
    rfl
  | case7 p rest s hp hName ih =>
    rw [Disk.walk.eq_def]
    simp only [hp, hName, h.nextSpots]
    cases d.nextSpots p s with
    | none => rfl
    | some next => exact flatten_mapM_map fun s _ => ih s

/-- **A search finds on the second disk what stands for what it finds on the first.** -/
theorem find_map (h : d.Maps φ d') (cs : List Char) :
    find d' cs = (find d cs).map (List.map φ) := by
  rw [find, find]
  cases patterns cs with
  | error fault => rfl
  | ok ps =>
    have hStart : d'.start cs = (d.start cs).map φ := by
      rw [Disk.start, Disk.start, h.ofText, h.spotAt]
    simp only [Disk.search, hStart, walk_map h]
    cases d.walk ps (d.start cs) with
    | none => rfl
    | some found =>
      have hFilter : (found.map (Spot.map φ)).filter (·.isDirectory) =
          (found.filter (·.isDirectory)).map (Spot.map φ) := List.filter_map
      simp only [Option.map_some, Except.map, hFilter]
      split <;> rw [List.map_map, List.map_map] <;> rfl

end SourceLint.Glob
