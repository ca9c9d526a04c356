import SourceLint.Glob.Disk
import SourceLint.Proofs.FileTree.Names

/-!
# Where a search for a directory comes to

A search goes to a directory part by part. From the root that gives the tidy
form of the path. In the current directory the name of an entry is its path, so
the `.` in front of a relative path is lost: what lies below `./x` is found as
`x/a`, and what lies below `.` as `a`.

* `base`             — what stands in front of the names below a directory.
* `base_of_isAbsolute` — from the root that is the tidy path.
* `follow?_base`     — it leads where the directory is.
* `base_sourceDir`   — and for a source it continues that of the root.
-/

namespace SourceLint.Glob

open FileTree (Place IsEntryName listedFrom)

variable {tree : FileTree} {path root : Path} {n : String} {names : List String}

-- ---------------------------------------------------------------------------
-- One part
-- ---------------------------------------------------------------------------

/-- The path of a name in the directory at the path. -/
def enter (path : Path) (name : String) : Path :=
  (listedFrom path).child name

theorem enter_disk (tree : FileTree) (path : Path) (hn : '/' ∉ n.toList) :
    tree.disk.enter path n = enter path n := by
  have hEnter : tree.disk.enter path n =
      if path.components = [.here] then ⟨n⟩ else path.child n := by
    simp [Disk.enter, FileTree.disk]
  rw [hEnter, enter, listedFrom]
  split
  · exact (Path.empty_child hn).symm
  · rfl

theorem components_ne_of_isAbsolute (h : path.isAbsolute = true) : path.components ≠ [.here] := by
  rw [Path.components_of_isAbsolute h]
  simp

theorem listedFrom_of_isAbsolute (h : path.isAbsolute = true) : listedFrom path = path :=
  if_neg (components_ne_of_isAbsolute h)

theorem enter_of_isAbsolute (h : path.isAbsolute = true) (n : String) :
    enter path n = path.child n := by
  rw [enter, listedFrom_of_isAbsolute h]

/-- Where a search begins. -/
def origin (dir : Path) : Path :=
  if dir.isAbsolute then ⟨"/"⟩ else ⟨"."⟩

/-- Where a search for the directory comes to. -/
def reached (dir : Path) : Path :=
  dir.stepNames.foldl enter (origin dir)

/-- What stands in front of the names below the directory when they are
found. -/
def base (dir : Path) : Path :=
  listedFrom (reached dir)

theorem foldl_enter_of_isAbsolute (h : path.isAbsolute = true) (names : List String) :
    names.foldl enter path = path.descend names := by
  induction names generalizing path with
  | nil => rfl
  | cons n names ih =>
    rw [List.foldl_cons, enter_of_isAbsolute h, ih (Path.isAbsolute_child h n)]
    rfl

theorem reached_of_isAbsolute {dir : Path} (h : dir.isAbsolute = true) :
    reached dir = dir.tidy := by
  have hRoot : (⟨"/"⟩ : Path).isAbsolute = true := by decide
  rw [reached, origin, if_pos h, foldl_enter_of_isAbsolute hRoot, Path.tidy, Path.start, if_pos h]

theorem base_of_isAbsolute {dir : Path} (h : dir.isAbsolute = true) : base dir = dir.tidy := by
  rw [base, reached_of_isAbsolute h, listedFrom_of_isAbsolute (Path.isAbsolute_tidy h)]

theorem components_listedFrom_ne (path : Path) : (listedFrom path).components ≠ [.here] := by
  rw [listedFrom]
  split
  · decide
  · assumption

/-- The path of an entry is not that of the current directory. -/
theorem listedFrom_enter (path : Path) (hn : IsEntryName n) :
    listedFrom (enter path n) = enter path n := by
  refine if_neg fun hHere => ?_
  have hLast : (enter path n).components.getLast? = some (.name n) := by
    rw [enter]
    by_cases hText : (listedFrom path).text = ""
    · have hEmpty : listedFrom path = ⟨""⟩ := congrArg Path.mk hText
      rw [hEmpty, Path.empty_child hn.2.2.2, components_entryName hn]
      rfl
    · rw [Path.components_child hText hn.2.2.2, stepComponent?_entryName hn]
      exact List.getLast?_concat
  rw [hHere] at hLast
  cases hLast

/-- Nor is a path that an empty part ends. -/
theorem listedFrom_enter_empty (path : Path) : listedFrom (enter path "") = enter path "" := by
  refine if_neg fun hHere => ?_
  rw [enter] at hHere
  by_cases hText : (listedFrom path).text = ""
  · have hEmpty : listedFrom path = ⟨""⟩ := congrArg Path.mk hText
    rw [hEmpty] at hHere
    exact absurd hHere (by decide)
  · have hNone : Path.stepComponent? "".toList = none := by decide
    rw [Path.components_child hText (by decide), hNone, Option.toList_none,
      List.append_nil] at hHere
    exact components_listedFrom_ne path hHere

/-- An empty part is lost if a name follows. -/
theorem enter_enter_empty (path : Path) (hn : '/' ∉ n.toList) :
    enter (enter path "") n = enter path n := by
  rw [enter, listedFrom_enter_empty, enter, enter, Path.child_empty_child _ hn]

theorem listedFrom_foldl_enter (path : Path) (h : ∀ n ∈ names, IsEntryName n) :
    listedFrom (names.foldl enter path) = (listedFrom path).descend names := by
  induction names generalizing path with
  | nil => rfl
  | cons n names ih =>
    obtain ⟨hn, hRest⟩ := List.forall_mem_cons.1 h
    rw [List.foldl_cons, ih (enter path n) hRest, listedFrom_enter path hn]
    rfl

theorem origin_join (p : Path) {q : Path} (hq : q.isAbsolute = false) :
    origin (p.join q) = origin p := by
  rw [origin, origin, Path.isAbsolute_join_eq p hq]

/-- What is found for a source lies below what is found for the root. -/
theorem base_sourceDir (root : Path) (h : ∀ n ∈ names, IsEntryName n) :
    base (sourceDir root (sourceOf names)) = (base root).descend names := by
  by_cases hNe : names = []
  · subst hNe
    rfl
  · have hRelative := sourceOf_relative hNe h
    obtain ⟨front, last, hRoot, hJoin⟩ := Path.stepNames_join root hRelative
    rw [stepNames_sourceOf hNe h] at hJoin
    rw [sourceDir, if_neg (components_sourceOf hNe h), base, base, reached, reached, hJoin, hRoot,
      origin_join root hRelative, ← listedFrom_foldl_enter _ h]
    split
    case isFalse => rw [List.foldl_append]
    case isTrue hLast =>
      subst hLast
      obtain ⟨n, ns, rfl⟩ := List.exists_cons_of_ne_nil hNe
      have hn := (h n (List.mem_cons_self ..)).2.2.2
      rw [List.foldl_append, List.foldl_append, List.foldl_cons, List.foldl_cons, List.foldl_cons,
        List.foldl_nil, enter_enter_empty _ hn]

end SourceLint.Glob
