import SourceLint.Proofs.FileTree.Resolve

/-!
# File trees — written in another way

The files of a tree may be changed and its names be written in another way, as
long as names are kept apart and none comes to mean anything else to a path.
Then paths that are written in that way lead to the same places
(`Renames.follow?`), and the same things lie below them (`Renames.contents`).

* `Renames`           — what is asked of such a change.
* `Renames.follow?`   — where paths lead.
* `Renames.contents`  — what lies below.
-/

namespace SourceLint.FileTree

variable {f : FileTree → FileTree} {name : String → String} {chars : List Char → List Char}

/-- Files are changed into files and names are written in another way. The
characters of a name change as the name does. -/
structure Renames (f : FileTree → FileTree) (name : String → String)
    (chars : List Char → List Char) : Prop where
  file : ∀ content, (f (.file content)).isDirectory = false
  dir : ∀ entries, f (.dir entries) = .dir (entries.map fun e => (name e.1, f e.2))
  injective : Function.Injective name
  ofList : ∀ m, String.ofList (chars m) = name (String.ofList m)
  silent : ∀ m, (chars m = [] ∨ chars m = ['.']) ↔ (m = [] ∨ m = ['.'])
  up : ∀ m, chars m = ['.', '.'] ↔ m = ['.', '.']

/-- The place in the tree that is written in another way. -/
def Place.rename (f : FileTree → FileTree) (name : String → String) (place : Place) : Place :=
  ⟨f place.here, place.above.map fun e => (name e.1, f e.2)⟩

namespace Renames

variable (h : Renames f name chars)

include h

theorem isDirectory (t : FileTree) : (f t).isDirectory = t.isDirectory := by
  cases t with
  | file content => exact h.file content
  | dir entries => rw [h.dir]; rfl

/-- A file is changed into a file. -/
theorem exists_file (content : ByteArray) : ∃ content', f (.file content) = .file content' := by
  have hFile := h.file content
  cases hEq : f (.file content) with
  | file content' => exact ⟨content', rfl⟩
  | dir entries => rw [hEq] at hFile; cases hFile

theorem lookup (entries : List (String × FileTree)) (n : String) :
    (entries.map fun e => (name e.1, f e.2)).lookup (name n) = (entries.lookup n).map f := by
  induction entries with
  | nil => rfl
  | cons e entries ih =>
    have hName : (name n == name e.1) = (n == e.1) := by
      rw [Bool.eq_iff_iff, beq_iff_eq, beq_iff_eq, h.injective.eq_iff]
    rw [List.map_cons, List.lookup_cons, List.lookup_cons, hName, ih]
    cases n == e.1 <;> rfl

theorem step (place : Place) (m : List Char) :
    (place.rename f name).step (chars m) = (place.step m).map (Place.rename f name) := by
  obtain ⟨here, above⟩ := place
  cases here with
  | file content =>
    obtain ⟨content', hFile⟩ := h.exists_file content
    rw [Place.rename, hFile]
    rfl
  | dir entries =>
    rw [Place.rename, h.dir]
    by_cases hSilent : m = [] ∨ m = ['.']
    · rw [step_silent hSilent, step_silent ((h.silent m).2 hSilent), Option.map_some, Place.rename,
        h.dir]
    by_cases hUp : m = ['.', '.']
    · rw [(h.up m).2 hUp, hUp]
      cases above with
      | nil => exact congrArg some (by rw [Place.rename, h.dir])
      | cons e above => rfl
    · rw [step_name hSilent hUp, step_name (mt (h.silent m).1 hSilent) (mt (h.up m).1 hUp),
        h.ofList, h.lookup, Option.map_map, Option.map_map]
      congr 1
      funext child
      rw [Function.comp_apply, Function.comp_apply, Place.rename, List.map_cons, h.dir]

theorem foldlM_step (ms : List (List Char)) (place : Place) :
    (ms.map chars).foldlM Place.step (place.rename f name) =
      (ms.foldlM Place.step place).map (Place.rename f name) := by
  induction ms generalizing place with
  | nil => rfl
  | cons m ms ih =>
    rw [List.map_cons, List.foldlM_cons, List.foldlM_cons, h.step]
    cases place.step m with
    | none => rfl
    | some next => exact ih next

/-- A path that is written in that way leads to the same place. -/
theorem follow? (t : FileTree) {p q : Path} (hSteps : q.steps = p.steps.map chars) :
    (f t).follow? q = (t.follow? p).map (Place.rename f name) := by
  rw [follow?_eq, follow?_eq, hSteps]
  exact h.foldlM_step p.steps ⟨t, []⟩

/-- The same lies below a path that is written in that way. -/
theorem contents {φ : Path → Path} (hChild : ∀ p n, (φ p).child (name n) = φ (p.child n))
    (t : FileTree) (p : Path) :
    (f t).contents (φ p) = (t.contents p).map fun x => ⟨φ x.path, name x.name, f x.tree⟩ := by
  induction t using induction generalizing p with
  | file content =>
    obtain ⟨content', hFile⟩ := h.exists_file content
    rw [hFile]
    rfl
  | dir entries ih =>
    rw [h.dir, contents_dir, contents_dir, List.flatMap_map, List.map_flatMap]
    apply List.flatMap_congr
    intro e he
    rw [List.map_cons, hChild, ih e he]

end Renames

end SourceLint.FileTree
