import Mathlib.Data.List.Basic
import SourceLint.Text.Scan

/-!
# Scanning — what a scan finds

A scan jumps over each of its finds. Nothing is lost that way if the
recogniser never finds anything *inside* a find: then the scan lists whatever
the recogniser finds at any column of the line.

* `scan_induction`                    — induction along a scan.
* `exists_find_of_mem_findAll`        — what is found is found somewhere.
* `findAll_eq_map_findsByColumn`      — a scan loses nothing (`FindsApart`).
* `findAll_append_one`                — a character that no find reads may
  stand at the end of the line (`Ignores`).
-/

namespace SourceLint.Text

variable {α : Type} {find : Recogniser α}

/-- What holds of the empty line, and of a line if it holds of what is left to
scan behind its first character or its first find, holds of every line. -/
theorem scan_induction (find : Recogniser α) {motive : List Char → Prop}
    (nil : motive [])
    (miss : ∀ c cs, find (c :: cs) = none → motive cs → motive (c :: cs))
    (hit : ∀ c cs a size, find (c :: cs) = some (a, size) →
      motive (cs.drop (size - 1)) → motive (c :: cs))
    (cs : List Char) : motive cs := by
  -- what is left to scan is a proper suffix: induct on the length
  induction hLen : cs.length using Nat.strongRecOn generalizing cs with
  | ind n ih =>
    cases cs with
    | nil => exact nil
    | cons c cs =>
      rw [List.length_cons] at hLen
      cases hFind : find (c :: cs) with
      | none => exact miss c cs hFind (ih cs.length (by omega) cs rfl)
      | some r =>
        obtain ⟨a, size⟩ := r
        have hShort : (cs.drop (size - 1)).length < n := by
          rw [List.length_drop]
          omega
        exact hit c cs a size hFind (ih _ hShort _ rfl)

/-- Whatever a scan finds the recogniser finds at some column. -/
theorem exists_find_of_mem_findAll {cs : List Char} {a : α} (ha : a ∈ findAll find cs) :
    ∃ column size, find (cs.drop column) = some (a, size) := by
  induction cs using scan_induction find with
  | nil => simp at ha
  | miss c cs hFind ih =>
    rw [findAll_cons_of_none hFind] at ha
    obtain ⟨column, size, h⟩ := ih ha
    exact ⟨column + 1, size, h⟩
  | hit c cs b size hFind ih =>
    rw [findAll_cons_of_some hFind] at ha
    rcases List.mem_cons.1 ha with rfl | ha
    · exact ⟨0, size, hFind⟩
    · obtain ⟨column, size', h⟩ := ih ha
      rw [List.drop_drop] at h
      exact ⟨size - 1 + column + 1, size', h⟩

-- ---------------------------------------------------------------------------
-- Recognisers whose finds lie apart
-- ---------------------------------------------------------------------------

/-- The recogniser finds nothing that begins inside one of its finds. -/
def FindsApart (find : Recogniser α) : Prop :=
  ∀ cs a size, find cs = some (a, size) →
    ∀ i, 0 < i → i < size → find (cs.drop i) = none

/-- What the recogniser finds at the columns of a line, with the column, from
left to right. -/
def findsByColumn (find : Recogniser α) (cs : List Char) : List (α × Nat) :=
  (List.range cs.length).filterMap fun column =>
    (find (cs.drop column)).map fun (a, _) => (a, column)

theorem mem_findsByColumn {cs : List Char} {a : α} {column : Nat} :
    (a, column) ∈ findsByColumn find cs ↔
      column < cs.length ∧ ∃ size, find (cs.drop column) = some (a, size) := by
  simp only [findsByColumn, List.mem_filterMap, List.mem_range, Option.map_eq_some_iff]
  constructor
  · intro hListed
    obtain ⟨i, hi, ⟨b, size⟩, hFind, hEq⟩ := hListed
    rw [Prod.mk.injEq] at hEq
    obtain ⟨rfl, rfl⟩ := hEq
    exact ⟨hi, size, hFind⟩
  · intro hFound
    obtain ⟨hColumn, size, hFind⟩ := hFound
    exact ⟨column, hColumn, (a, size), hFind, rfl⟩

theorem findsByColumn_sorted (cs : List Char) :
    (findsByColumn find cs).Pairwise fun p q => p.2 < q.2 := by
  rw [findsByColumn, List.pairwise_filterMap]
  refine List.pairwise_lt_range.imp ?_
  intro i j hij p hp q hq
  rw [Option.map_eq_some_iff] at hp hq
  obtain ⟨_, -, rfl⟩ := hp
  obtain ⟨_, -, rfl⟩ := hq
  exact hij

/-- The finds of a line are the one at its first column and those of the rest. -/
theorem map_findsByColumn_cons (c : Char) (cs : List Char) :
    (findsByColumn find (c :: cs)).map Prod.fst =
      ((find (c :: cs)).map Prod.fst).toList ++ (findsByColumn find cs).map Prod.fst := by
  rw [findsByColumn, List.length_cons, List.range_succ_eq_map, List.filterMap_cons,
    List.filterMap_map, findsByColumn, List.map_filterMap]
  cases hFind : find (c :: cs) with
  | none => simp [hFind, Function.comp_def, List.map_filterMap]
  | some r => simp [hFind, Function.comp_def, List.map_filterMap]

/-- Columns at which nothing is found may be left out. -/
theorem map_findsByColumn_drop (n : Nat) :
    ∀ cs : List Char, (∀ i < n, find (cs.drop i) = none) →
      (findsByColumn find cs).map Prod.fst = (findsByColumn find (cs.drop n)).map Prod.fst := by
  induction n with
  | zero =>
    intro cs _
    rfl
  | succ n ih =>
    intro cs hNone
    cases cs with
    | nil => rfl
    | cons c cs =>
      have hHead : find (c :: cs) = none := hNone 0 (by omega)
      have hTail : ∀ i < n, find (cs.drop i) = none := fun i hi => hNone (i + 1) (by omega)
      rw [map_findsByColumn_cons, hHead, ih cs hTail]
      rfl

/-- **A scan loses nothing** if the finds of its recogniser lie apart. -/
theorem findAll_eq_map_findsByColumn (hApart : FindsApart find) (cs : List Char) :
    findAll find cs = (findsByColumn find cs).map Prod.fst := by
  induction cs using scan_induction find with
  | nil => rfl
  | miss c cs hFind ih =>
    rw [findAll_cons_of_none hFind, map_findsByColumn_cons, hFind, ih]
    rfl
  | hit c cs a size hFind ih =>
    have hInside : ∀ i < size - 1, find (cs.drop i) = none := fun i hi =>
      hApart (c :: cs) a size hFind (i + 1) (by omega) (by omega)
    rw [findAll_cons_of_some hFind, map_findsByColumn_cons, hFind, ih,
      map_findsByColumn_drop (size - 1) cs hInside]
    rfl

-- ---------------------------------------------------------------------------
-- Characters that no find reads
-- ---------------------------------------------------------------------------

/-- It makes no difference to the recogniser whether the character `x` ends
the text. -/
def Ignores (find : Recogniser α) (x : Char) : Prop :=
  ∀ cs, find (cs ++ [x]) = find cs

/-- A character that the recogniser ignores may stand at the end of a line. -/
theorem findAll_append_one {x : Char} (hIgnores : Ignores find x) (hEmpty : find [] = none)
    (cs : List Char) : findAll find (cs ++ [x]) = findAll find cs := by
  induction cs using scan_induction find with
  | nil =>
    have hOne : find [x] = none := (hIgnores []).trans hEmpty
    rw [List.nil_append, findAll_cons_of_none hOne]
  | miss c cs hFind ih =>
    have hSame : find (c :: (cs ++ [x])) = none := (hIgnores (c :: cs)).trans hFind
    rw [List.cons_append, findAll_cons_of_none hFind, findAll_cons_of_none hSame, ih]
  | hit c cs a size hFind ih =>
    have hSame : find (c :: (cs ++ [x])) = some (a, size) := (hIgnores (c :: cs)).trans hFind
    rw [List.cons_append, findAll_cons_of_some hFind, findAll_cons_of_some hSame]
    congr 1
    rcases Nat.lt_or_ge cs.length (size - 1) with hLong | hFits
    · -- the find reaches beyond the line: nothing is left to scan
      have hLeft : cs.drop (size - 1) = [] := List.drop_eq_nil_of_le (by omega)
      have hLeft' : (cs ++ [x]).drop (size - 1) = [] := by
        apply List.drop_eq_nil_of_le
        rw [List.length_append, List.length_singleton]
        omega
      rw [hLeft, hLeft']
    · rw [List.drop_append_of_le_length hFits, ih]

end SourceLint.Text
