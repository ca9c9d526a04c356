import SourceLint.Proofs.FileTree.Names

/-!
# Names of directories in relative paths

What is left of a path behind a root begins and ends with a piece that stands
for a component, so its last step is its last component, and the steps in front
of that one lead through directories. A name that can stand in a directory
stands for itself wherever it is, so the directories of that name are found in
the text between the slashes.

* `mem_directoryNames_iff`   — directories are the components but the last.
* `mem_steps_iff`            — the directories of a path that ends in a name.
* `mem_steps_relativeTo_iff` — the directories of a relative path, in its text.
-/

namespace SourceLint.Path

open FileTree (IsEntryName)

variable {p root : Path} {n : String}

theorem mem_directoryNames_iff : n ∈ p.directoryNames ↔ .name n ∈ p.components.dropLast := by
  rw [directoryNames, List.mem_filterMap]
  constructor
  · rintro ⟨c, hc, hName⟩
    cases c with
    | name m =>
      cases hName
      exact hc
    | root | here | up => cases hName
  · exact fun hName => ⟨.name n, hName, rfl⟩

-- ---------------------------------------------------------------------------
-- Pieces
-- ---------------------------------------------------------------------------

theorem component?_innerPiece_iff (hn : IsEntryName n) {m : List Char} :
    (innerPiece m).component? = some (.name n) ↔ m = n.toList := by
  constructor
  · intro hName
    rw [innerPiece] at hName
    split at hName
    · cases hName
    · split at hName
      · cases hName
      · cases hName
        exact String.toList_ofList.symm
  · rintro rfl
    exact stepComponent?_entryName hn

/-- A piece stands for a name exactly if it is spelled like it. -/
theorem component?_eq_name_iff (hn : IsEntryName n) {piece : Piece} (h : piece ∈ p.pieces) :
    piece.component? = some (.name n) ↔ piece.text = n.toList := by
  have hInner : ∀ m, (innerPiece m).component? = some (.name n) ↔ (innerPiece m).text = n.toList :=
    fun m => by rw [component?_innerPiece_iff hn, innerPiece_text]
  have hLoud := not_silent_of_isEntryName hn
  rw [not_or] at hLoud
  rw [pieces] at h
  split at h
  · cases h
  · rcases List.mem_cons.1 h with rfl | hRest
    · rw [firstPiece]
      split
      case isTrue hEmpty =>
        refine iff_of_false ?_ fun hText => hLoud.1 (hText.symm.trans hEmpty)
        split <;> simp
      case isFalse =>
        split
        case isTrue hHere =>
          exact iff_of_false (by simp) fun hText => hLoud.2 (hText.symm.trans hHere)
        case isFalse => exact hInner _
    · obtain ⟨m, -, rfl⟩ := List.mem_map.1 hRest
      exact hInner m

/-- Where a path ends in a name, the steps in front of it lead through its
directories. -/
theorem mem_steps_iff (hn : IsEntryName n) {last : String} (hLast : IsEntryName last)
    (h : p.steps.getLast? = some last.toList) :
    n.toList ∈ p.steps.dropLast ↔ n ∈ p.directoryNames := by
  rw [← map_text_pieces, List.getLast?_map, Option.map_eq_some_iff] at h
  obtain ⟨piece, hPiece, hText⟩ := h
  obtain ⟨front, hPieces⟩ := List.getLast?_eq_some_iff.1 hPiece
  have hName := (component?_eq_name_iff hLast (List.mem_of_getLast? hPiece)).2 hText
  have hFront : ∀ q ∈ front, q ∈ p.pieces := fun q hq => hPieces ▸ List.mem_append_left _ hq
  rw [mem_directoryNames_iff, ← map_text_pieces, components, hPieces, List.map_append,
    List.filterMap_append, List.filterMap_cons_some hName, List.filterMap_nil, List.map_singleton,
    List.dropLast_concat, List.dropLast_concat, List.mem_map, List.mem_filterMap]
  refine exists_congr fun q => and_congr_right fun hq => ?_
  exact (component?_eq_name_iff hn (hFront q hq)).symm

/-- The steps of the path that the pieces make, but the last, are the pieces but
the last. -/
theorem mem_steps_ofPieces_iff {m : List Char} (hm : m ≠ []) {qs : List Piece}
    (h : ∀ q ∈ qs, '/' ∉ q.text) :
    m ∈ (ofPieces qs).steps.dropLast ↔ ∃ q ∈ qs.dropLast, q.text = m := by
  cases qs with
  | nil =>
    have hNone : (ofPieces []).steps.dropLast = [] := by decide
    rw [hNone]
    simp
  | cons q rs =>
    cases rs with
    | nil =>
      refine iff_of_false ?_ (by simp)
      rw [ofPieces]
      split
      case isTrue =>
        intro hMem
        exact hm (List.mem_singleton.1 hMem)
      case isFalse =>
        rw [steps, String.toList_ofList, splitSlash_of_not_mem (h q (List.mem_cons_self ..))]
        exact List.not_mem_nil
    | cons r rs =>
      have hTexts : ∀ t ∈ (q :: r :: rs).map (·.text), '/' ∉ t := by
        intro t ht
        obtain ⟨s, hs, rfl⟩ := List.mem_map.1 ht
        exact h s hs
      have hSteps : (ofPieces (q :: r :: rs)).steps = (q :: r :: rs).map (·.text) := by
        rw [ofPieces, steps, String.toList_ofList, splitSlash_intercalate _ hTexts]
        · simp
        · simp
      rw [hSteps, ← List.map_dropLast, List.mem_map]

-- ---------------------------------------------------------------------------
-- Relative paths
-- ---------------------------------------------------------------------------

/-- The last piece of a trimmed list is a component. -/
theorem filterMap_dropLast_trimSilent (ps : List Piece) :
    (trimSilent ps).dropLast.filterMap Piece.component? =
      (ps.filterMap Piece.component?).dropLast := by
  have hTrim : trimSilent ps =
      (ps.dropWhile (·.component?.isNone)).rdropWhile (·.component?.isNone) := by
    rw [trimSilent, trimSilentEnd_eq_rdropWhile]
  have hLoud := (trim_eq_iff.1 hTrim.symm).2.2
  rw [← filterMap_trim Piece.component? ps, ← hTrim]
  rcases List.eq_nil_or_concat (trimSilent ps) with hNil | ⟨qs, q, hConcat⟩
  · rw [hNil]
    rfl
  · rw [List.concat_eq_append] at hConcat
    rw [hConcat] at hLoud ⊢
    have hLast := hLoud q List.getLast?_concat
    obtain ⟨c, hc⟩ := Option.isSome_iff_exists.1 (Option.isNone_eq_false_iff.1 hLast)
    rw [List.dropLast_concat, List.filterMap_append, List.filterMap_cons_some hc,
      List.filterMap_nil, List.dropLast_concat]

/-- **The directories of a relative path are found in its text**, between the
slashes. -/
theorem mem_steps_relativeTo_iff (hn : IsEntryName n) {below : List Component}
    (h : p.components = root.components ++ below) :
    n.toList ∈ (p.relativeTo root).steps.dropLast ↔ .name n ∈ below.dropLast := by
  obtain ⟨rest, hDrop⟩ := exists_rest_of_prefix ⟨below, h.symm⟩
  obtain ⟨before, hPieces, hBefore⟩ := dropComponents_eq_some hDrop
  have hBelow : rest.filterMap Piece.component? = below := by
    rw [components, hPieces, List.filterMap_append, hBefore] at h
    exact List.append_cancel_left h
  have hKept : ∀ q ∈ trimSilent rest, q ∈ p.pieces := by
    intro q hq
    rw [trimSilent, trimSilentEnd_eq_rdropWhile] at hq
    rw [hPieces]
    exact List.mem_append_right _
      ((List.dropWhile_sublist _).mem ((List.rdropWhile_prefix _ _).mem hq))
  have hSlash : ∀ q ∈ trimSilent rest, '/' ∉ q.text := fun q hq =>
    not_mem_of_mem_splitSlash (text_mem_of_mem_pieces (hKept q hq))
  have hEmpty : n.toList ≠ [] := fun hNil => not_silent_of_isEntryName hn (Or.inl hNil)
  rw [relativeTo, relativeTo?, hDrop, Option.map_some, Option.getD_some,
    mem_steps_ofPieces_iff hEmpty hSlash, ← hBelow, ← filterMap_dropLast_trimSilent,
    List.mem_filterMap]
  refine exists_congr fun q => and_congr_right fun hq => ?_
  exact (component?_eq_name_iff hn (hKept q (List.dropLast_subset _ hq))).symm

end SourceLint.Path
