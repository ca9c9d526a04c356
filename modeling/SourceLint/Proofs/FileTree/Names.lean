import SourceLint.Analysis.Discovery
import SourceLint.Proofs.FileTree.Resolve
import SourceLint.Proofs.Path.Relative

/-!
# Names of entries in paths

A name that can stand in a directory stands for itself in a path, so names
that lead down from a path are found in its components, and the names of a
source lead down from the root.

* `components_descend_entryNames` — names are components.
* `components_join_entryName`     — one more name in front.
* `names_eq_of_components`        — and components are names.
* `tidy_sourceDir`                — where a source leads.
-/

namespace SourceLint

open FileTree (IsEntryName)

variable {names others : List String} {p root : Path}

-- ---------------------------------------------------------------------------
-- Components
-- ---------------------------------------------------------------------------

theorem not_silent_of_isEntryName {n : String} (h : IsEntryName n) :
    ¬ (n.toList = [] ∨ n.toList = ['.']) := by
  obtain ⟨hEmpty, hHere, -, -⟩ := h
  rintro (hList | hList)
  · exact hEmpty (String.toList_eq_nil_iff.1 hList)
  · exact hHere (String.toList_injective hList)

theorem stepComponent?_entryName {n : String} (h : IsEntryName n) :
    Path.stepComponent? n.toList = some (.name n) := by
  have hUp : n.toList ≠ ['.', '.'] := fun hList => h.2.2.1 (String.toList_injective hList)
  rw [Path.stepComponent?, Path.innerPiece, if_neg (not_silent_of_isEntryName h), if_neg hUp,
    String.ofList_toList]

/-- A name is the one component of its path. -/
theorem components_entryName {n : String} (hn : IsEntryName n) :
    (⟨n⟩ : Path).components = [.name n] := by
  have hLoud := not_silent_of_isEntryName hn
  rw [not_or] at hLoud
  have hSteps : (⟨n⟩ : Path).steps = [n.toList] := Path.splitSlash_of_not_mem hn.2.2.2
  rw [Path.components_of_loud_step hSteps hLoud.1 hLoud.2, hSteps,
    List.filterMap_cons_some (stepComponent?_entryName hn), List.filterMap_nil]

/-- Names that lead down are components. -/
theorem components_descend_entryNames (p : Path) (h : ∀ n ∈ names, IsEntryName n) :
    (p.descend names).components = p.components ++ names.map .name := by
  have hText : ∀ {p : Path} {names : List String}, p.text ≠ "" → (∀ n ∈ names, IsEntryName n) →
      (p.descend names).components = p.components ++ names.map .name := by
    intro p names hp h
    rw [Path.components_descend hp fun n hn => (h n hn).2.2.2]
    congr 1
    rw [List.filterMap_congr fun n hn => stepComponent?_entryName (h n hn)]
    exact congrFun List.filterMap_eq_map names
  by_cases hp : p.text = ""
  case neg => exact hText hp h
  case pos =>
    -- the empty path has no component, and is no step in front of the first name
    obtain rfl : p = ⟨""⟩ := congrArg Path.mk hp
    cases names with
    | nil => rfl
    | cons n ns =>
      obtain ⟨hn, hRest⟩ := List.forall_mem_cons.1 h
      rw [Path.descend_cons, Path.empty_child hn.2.2.2, hText hn.1 hRest, components_entryName hn]
      rfl

/-- A name in front of a path is its first component, unless the path begins at
the root or in `.`. -/
theorem components_join_entryName {n : String} (h : IsEntryName n) {q : Path}
    (hRoot : .root ∉ q.components) (hHere : .here ∉ q.components) :
    ((⟨n⟩ : Path).join q).components = .name n :: q.components := by
  obtain ⟨hRelative, hComponents⟩ := Path.components_of_relative hRoot hHere
  have hLoud := not_silent_of_isEntryName h
  rw [not_or] at hLoud
  obtain ⟨hEmpty, hDot⟩ := hLoud
  have hOne : (⟨n⟩ : Path).steps = [n.toList] := Path.splitSlash_of_not_mem h.2.2.2
  have hSteps : ((⟨n⟩ : Path).join q).steps = n.toList :: q.steps := by
    rw [Path.steps_join _ hRelative, hOne, ← List.nil_append [n.toList],
      Path.withoutEmptyEnd_append_one, if_neg hEmpty]
    rfl
  rw [Path.components_of_loud_step hSteps hEmpty hDot, hSteps,
    List.filterMap_cons_some (stepComponent?_entryName h), hComponents]

/-- Names that lead from a path to the same components are the same. -/
theorem names_eq_of_components (h : ∀ n ∈ names, IsEntryName n)
    (hOthers : ∀ n ∈ others, IsEntryName n)
    (hEq : (p.descend names).components = (p.descend others).components) : names = others := by
  rw [components_descend_entryNames p h, components_descend_entryNames p hOthers] at hEq
  have hInj : Function.Injective Path.Component.name := fun _ _ => Path.Component.name.inj
  exact List.map_injective_iff.2 hInj (List.append_cancel_left hEq)

/-- The relative path of what names lead to consists of the names. -/
theorem relativeTo_entryNames (hRoot : root.isAbsolute = true)
    (h : ∀ n ∈ names, IsEntryName n) :
    (root.tidy.descend names).relativeTo root = ⟨"/".intercalate names⟩ := by
  have hLoud : ∀ m ∈ names.map String.toList, Path.stepComponent? m ≠ none := by
    intro m hm
    obtain ⟨n, hn, rfl⟩ := List.mem_map.1 hm
    rw [stepComponent?_entryName (h n hn)]
    exact Option.some_ne_none _
  have hFilter : (names.map String.toList).filter (· ≠ []) = names.map String.toList := by
    rw [List.filter_eq_self]
    intro m hm
    rw [decide_eq_true_eq]
    rintro rfl
    exact hLoud [] hm rfl
  rw [Path.relativeTo_descend hRoot fun n hn => (h n hn).2.2.2, Path.spelled, hFilter,
    Path.trimSilent_map, Path.trimmed_eq_self hLoud, Path.ofPieces_map]
  congr 1
  apply String.toList_injective
  rw [String.toList_ofList, String.toList_intercalate]
  rfl

-- ---------------------------------------------------------------------------
-- Sources
-- ---------------------------------------------------------------------------

/-- The source that leads down from the root by the names. -/
def sourceOf (names : List String) : Path :=
  if names = [] then ⟨"."⟩ else ⟨"/".intercalate names⟩

theorem steps_sourceOf (hNe : names ≠ []) (h : ∀ n ∈ names, IsEntryName n) :
    (sourceOf names).steps = names.map String.toList := by
  rw [sourceOf, if_neg hNe, Path.steps, String.toList_intercalate]
  apply Path.splitSlash_intercalate
  · simpa using hNe
  · intro m hm
    obtain ⟨n, hn, rfl⟩ := List.mem_map.1 hm
    exact (h n hn).2.2.2

theorem sourceOf_relative (hNe : names ≠ []) (h : ∀ n ∈ names, IsEntryName n) :
    (sourceOf names).isAbsolute = false := by
  rw [Bool.eq_false_iff]
  intro hAbs
  obtain ⟨ms, -, hSteps⟩ := Path.steps_of_isAbsolute hAbs
  obtain ⟨n, ns, rfl⟩ := List.exists_cons_of_ne_nil hNe
  rw [steps_sourceOf hNe h, List.map_cons, List.cons.injEq] at hSteps
  exact not_silent_of_isEntryName (h n (List.mem_cons_self ..)) (Or.inl hSteps.1)

theorem stepNames_sourceOf (hNe : names ≠ []) (h : ∀ n ∈ names, IsEntryName n) :
    (sourceOf names).stepNames = names := by
  have hSteps := steps_sourceOf hNe h
  rw [Path.stepNames_of_relative (sourceOf_relative hNe h)] at hSteps
  exact List.map_injective_iff.2 (fun _ _ hList => String.toList_injective hList) hSteps

theorem components_sourceOf (hNe : names ≠ []) (h : ∀ n ∈ names, IsEntryName n) :
    (sourceOf names).components ≠ [.here] := by
  have hSteps := steps_sourceOf hNe h
  obtain ⟨n, ns, rfl⟩ := List.exists_cons_of_ne_nil hNe
  have hFirst := not_silent_of_isEntryName (h n (List.mem_cons_self ..))
  have hName := stepComponent?_entryName (h n (List.mem_cons_self ..))
  rw [Path.steps, List.map_cons] at hSteps
  rw [not_or] at hFirst
  rw [Path.components, Path.pieces, hSteps]
  simp only [Path.firstPiece, if_neg hFirst.1, if_neg hFirst.2]
  rw [Path.stepComponent?] at hName
  rw [List.filterMap_cons_some hName]
  simp

/-- The directory of a source is where its names lead. -/
theorem tidy_sourceDir (root : Path) (h : ∀ n ∈ names, IsEntryName n) :
    (sourceDir root (sourceOf names)).tidy = root.tidy.descend names := by
  by_cases hNe : names = []
  · subst hNe
    rfl
  · rw [sourceDir, if_neg (components_sourceOf hNe h), Path.tidy_join _ (sourceOf_relative hNe h),
      stepNames_sourceOf hNe h]

variable {tree sub : FileTree}

/-- The directory of a source is what its names are looked up to, up to the
length of its path. -/
theorem find?_sourceDir (hRoot : tree.find? root = some sub) (h : ∀ n ∈ names, IsEntryName n) :
    tree.find? (sourceDir root (sourceOf names)) =
      if (sourceDir root (sourceOf names)).text.utf8ByteSize ≤ FileTree.maxPathBytes
        then FileTree.at? names sub else none := by
  obtain ⟨-, above, hFollow⟩ := FileTree.find?_eq_some_iff.1 hRoot
  rw [← FileTree.follow?_tidy] at hFollow
  rw [FileTree.find?_eq, ← FileTree.follow?_tidy, tidy_sourceDir root h,
    FileTree.map_here_follow?_descend h hFollow]

end SourceLint
