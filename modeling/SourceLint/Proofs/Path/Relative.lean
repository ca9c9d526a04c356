import Mathlib.Data.List.DropRight
import SourceLint.Path.Relative
import SourceLint.Proofs.Path.Tidy
import SourceLint.Proofs.Trim

/-!
# Paths — what is left of them behind a root

The relative path has exactly the components that the path has behind those of
the root; a path that the root does not lead to stays as it is. The second kind
is absolute and the first is not, so no two paths that name different files
have relative paths that name the same (`components_eq_of_relativeTo`).

What is left of a path that goes down from the root does not depend on the
root (`relativeTo_descend`).

* `components_relativeTo`       — the components that are left.
* `components_eq_of_relativeTo` — nothing but the root is lost.
* `relativeTo_descend`          — the root leaves no trace.
-/

namespace SourceLint.Path

-- ---------------------------------------------------------------------------
-- Taking components away
-- ---------------------------------------------------------------------------

theorem dropComponents_eq_some {cs : List Component} {ps rest : List Piece}
    (h : dropComponents cs ps = some rest) :
    ∃ before, ps = before ++ rest ∧ before.filterMap Piece.component? = cs := by
  induction ps generalizing cs with
  | nil =>
    cases cs with
    | nil => exact ⟨[], by simpa [dropComponents] using h, rfl⟩
    | cons c cs => simp [dropComponents] at h
  | cons p ps ih =>
    cases cs with
    | nil => exact ⟨[], by simpa [dropComponents] using h, rfl⟩
    | cons c cs =>
      rw [dropComponents] at h
      cases hp : p.component? with
      | none =>
        rw [hp] at h
        obtain ⟨before, rfl, hBefore⟩ := ih h
        exact ⟨p :: before, rfl, by rw [List.filterMap_cons_none hp, hBefore]⟩
      | some d =>
        simp only [hp, Option.ite_none_right_eq_some] at h
        obtain ⟨rfl, h⟩ := h
        obtain ⟨before, rfl, hBefore⟩ := ih h
        exact ⟨p :: before, rfl, by rw [List.filterMap_cons_some hp, hBefore]⟩

/-- The components of some pieces are found in front of others. Silent pieces
behind the last of them are left over. -/
theorem dropComponents_append (before rest : List Piece) :
    ∃ silent, (∀ p ∈ silent, p.component?.isNone) ∧
      dropComponents (before.filterMap Piece.component?) (before ++ rest) =
        some (silent ++ rest) := by
  induction before with
  | nil =>
    refine ⟨[], fun _ h => absurd h List.not_mem_nil, ?_⟩
    rw [List.filterMap_nil, dropComponents]
  | cons p before ih =>
    obtain ⟨silent, hSilent, hDrop⟩ := ih
    cases hp : p.component? with
    | some d =>
      refine ⟨silent, hSilent, ?_⟩
      rw [List.filterMap_cons_some hp, List.cons_append, dropComponents]
      simp only [hp, if_pos]
      exact hDrop
    | none =>
      rw [List.filterMap_cons_none hp]
      cases hCs : before.filterMap Piece.component? with
      | cons c cs =>
        refine ⟨silent, hSilent, ?_⟩
        rw [List.cons_append, dropComponents]
        simp only [hp]
        rwa [hCs] at hDrop
      | nil =>
        -- no component is left to look for: all that is left of `before` is silent
        refine ⟨p :: before, ?_, by rw [dropComponents]⟩
        rw [List.forall_mem_cons, hp]
        exact ⟨rfl, by simpa using hCs⟩

-- ---------------------------------------------------------------------------
-- Silent pieces at the ends
-- ---------------------------------------------------------------------------

theorem trimSilentEnd_eq_rdropWhile (ps : List Piece) :
    trimSilentEnd ps = ps.rdropWhile (·.component?.isNone) := by
  induction ps with
  | nil => rfl
  | cons p ps ih =>
    rw [trimSilentEnd, ih, rdropWhile_cons]
    cases ps.rdropWhile (·.component?.isNone) <;> rfl

/-- Silent pieces at the ends do not matter. -/
theorem trimSilent_append {before behind : List Piece}
    (hBefore : ∀ p ∈ before, p.component?.isNone) (hBehind : ∀ p ∈ behind, p.component?.isNone)
    (ps : List Piece) : trimSilent (before ++ (ps ++ behind)) = trimSilent ps := by
  rw [trimSilent, trimSilent, trimSilentEnd_eq_rdropWhile, trimSilentEnd_eq_rdropWhile,
    ← List.append_assoc, trim_append hBefore hBehind]

/-- The steps from the first to the last that stands for a component. -/
def trimmed (ms : List (List Char)) : List (List Char) :=
  (ms.dropWhile fun m => (stepComponent? m).isNone).rdropWhile fun m => (stepComponent? m).isNone

theorem trimSilent_map (ms : List (List Char)) :
    trimSilent (ms.map innerPiece) = (trimmed ms).map innerPiece := by
  rw [trimSilent, trimSilentEnd_eq_rdropWhile, trimmed, List.dropWhile_map, List.rdropWhile,
    List.rdropWhile, ← List.map_reverse, List.dropWhile_map, List.map_reverse]
  rfl

theorem trimmed_sublist (ms : List (List Char)) : (trimmed ms).Sublist ms :=
  (List.rdropWhile_prefix _ _).sublist.trans (List.dropWhile_sublist _)

theorem filterMap_trimmed (ms : List (List Char)) :
    (trimmed ms).filterMap stepComponent? = ms.filterMap stepComponent? :=
  filterMap_trim stepComponent? ms

theorem stepComponent?_head_trimmed {ms : List (List Char)} {k : List Char} {ks : List (List Char)}
    (h : trimmed ms = k :: ks) : stepComponent? k ≠ none := by
  have hFirst := (trim_eq_iff.1 h).2.1 k rfl
  exact fun hNone => Bool.false_ne_true (hFirst.symm.trans (Option.isNone_iff_eq_none.2 hNone))

theorem trimmed_eq_self {ms : List (List Char)} (h : ∀ m ∈ ms, stepComponent? m ≠ none) :
    trimmed ms = ms := by
  have hKept : ∀ m ∈ ms, (stepComponent? m).isNone = false := fun m hm =>
    Option.isNone_eq_false_iff.2 (Option.isSome_iff_ne_none.2 (h m hm))
  exact trim_eq_self (fun m hm => hKept m (List.mem_of_head? hm))
    fun m hm => hKept m (List.mem_of_getLast? hm)

-- ---------------------------------------------------------------------------
-- Paths made of steps
-- ---------------------------------------------------------------------------

theorem innerPiece_text (m : List Char) : (innerPiece m).text = m := by
  rw [innerPiece]
  split
  · rfl
  · split <;> rfl

/-- The pieces say what stands between the slashes. -/
theorem map_text_pieces (p : Path) : p.pieces.map (·.text) = p.steps := by
  have hInner : (·.text) ∘ innerPiece = id := funext innerPiece_text
  have hFirst : ∀ m alone, (firstPiece m alone).text = m := by
    intro m alone
    rw [firstPiece]
    split
    · rfl
    · split
      · rfl
      · exact innerPiece_text m
  rw [pieces, steps]
  cases hSplit : splitSlash p.text.toList with
  | nil => rfl
  | cons m ms => rw [List.map_cons, List.map_map, hInner, List.map_id, hFirst]

theorem text_mem_of_mem_pieces {p : Path} {piece : Piece} (h : piece ∈ p.pieces) :
    piece.text ∈ p.steps :=
  map_text_pieces p ▸ List.mem_map_of_mem h

/-- The path that the steps spell. -/
theorem ofPieces_map (ms : List (List Char)) :
    ofPieces (ms.map innerPiece) = ⟨String.ofList (['/'].intercalate ms)⟩ := by
  have hTexts : (ms.map innerPiece).map (·.text) = ms := by
    rw [List.map_map]
    exact List.map_id'' innerPiece_text ms
  cases ms with
  | nil => rfl
  | cons m ms =>
    cases ms with
    | nil =>
      have hNotRoot := stepComponent?_ne_root m
      rw [stepComponent?] at hNotRoot
      rw [List.map_singleton, ofPieces, if_neg hNotRoot, innerPiece_text]
      simp
    | cons n ns =>
      have hMany : ofPieces ((m :: n :: ns).map innerPiece) =
          ⟨String.ofList (['/'].intercalate (((m :: n :: ns).map innerPiece).map (·.text)))⟩ := by
        rw [List.map_cons, List.map_cons, ofPieces]
        simp
      rw [hMany, hTexts]

/-- A path that is made of trimmed steps has their components. -/
theorem components_ofPieces_trimSilent {ms : List (List Char)} (hms : ∀ m ∈ ms, '/' ∉ m) :
    (ofPieces (trimSilent (ms.map innerPiece))).components = ms.filterMap stepComponent? := by
  rw [trimSilent_map, ofPieces_map, ← filterMap_trimmed ms, components, pieces, String.toList_ofList]
  cases h : trimmed ms with
  | nil => rfl
  | cons k ks =>
    have hSlash : ∀ m ∈ k :: ks, '/' ∉ m := fun m hm =>
      hms m ((trimmed_sublist ms).subset (h ▸ hm))
    have hFirst : stepComponent? k ≠ none := stepComponent?_head_trimmed h
    have hPiece : firstPiece k ks.isEmpty = innerPiece k := by
      rw [ne_eq, stepComponent?_eq_none_iff, not_or] at hFirst
      rw [firstPiece, if_neg hFirst.1, if_neg hFirst.2]
    rw [splitSlash_intercalate (List.cons_ne_nil k ks) hSlash]
    simp only [hPiece]
    rw [← List.map_cons, List.filterMap_map]
    rfl

-- ---------------------------------------------------------------------------
-- Relative paths
-- ---------------------------------------------------------------------------

variable {p q root : Path}

/-- What is left behind the components of the root. -/
theorem exists_rest_of_prefix (h : root.components <+: p.components) :
    ∃ rest, dropComponents root.components p.pieces = some rest := by
  obtain ⟨cs, hcs⟩ := h
  obtain ⟨before, rest, hPieces, hBefore, -⟩ := List.filterMap_eq_append_iff.1 hcs.symm
  obtain ⟨silent, -, hFound⟩ := dropComponents_append before rest
  rw [hBefore, ← hPieces] at hFound
  exact ⟨_, hFound⟩

/-- Only the empty path has no component. -/
theorem components_ne_nil (hp : p.text ≠ "") : p.components ≠ [] := by
  cases hAbs : p.isAbsolute with
  | true =>
    rw [components_of_isAbsolute hAbs]
    exact List.cons_ne_nil _ _
  | false =>
    obtain ⟨m, ms, hm, hSteps⟩ := steps_of_relative hp hAbs
    have hFirst : (firstPiece m ms.isEmpty).component? ≠ none := by
      rw [firstPiece, if_neg hm]
      split
      case isTrue => exact Option.some_ne_none _
      case isFalse hDot => exact fun hNone => (stepComponent?_eq_none_iff.1 hNone).elim hm hDot
    obtain ⟨c, hc⟩ := Option.ne_none_iff_exists'.1 hFirst
    rw [components_of_steps hSteps, hc]
    exact List.cons_ne_nil _ _

/-- Behind a component a path has only inner pieces. -/
theorem rest_of_dropComponents (hRoot : root.text ≠ "") {rest : List Piece}
    (h : dropComponents root.components p.pieces = some rest) :
    ∃ ms : List (List Char), rest = ms.map innerPiece ∧ (∀ m ∈ ms, '/' ∉ m) ∧
      p.components = root.components ++ ms.filterMap stepComponent? := by
  obtain ⟨before, hPieces, hBefore⟩ := dropComponents_eq_some h
  have hSuffix : rest <:+ p.steps.tail.map innerPiece := by
    cases before with
    | nil => exact absurd hBefore.symm (components_ne_nil hRoot)
    | cons b before =>
      rw [pieces] at hPieces
      rw [steps]
      cases hSteps : splitSlash p.text.toList with
      | nil => exact absurd hSteps (splitSlash_ne_nil _)
      | cons m ms =>
        rw [hSteps, List.cons_append, List.cons.injEq] at hPieces
        exact ⟨before, hPieces.2.symm⟩
  obtain ⟨ms, hms, rfl⟩ := List.suffix_map_iff.1 hSuffix
  refine ⟨ms, rfl, ?_, ?_⟩
  · intro m hm
    exact not_mem_of_mem_splitSlash (List.mem_of_mem_tail (hms.subset hm))
  · rw [components, hPieces, List.filterMap_append, hBefore, List.filterMap_map]
    rfl

/-- The root leads to the path and its components are taken away, or the path
stays as it is. -/
theorem relativeTo_cases (hRoot : root.text ≠ "") :
    p.components = root.components ++ (p.relativeTo root).components ∧
        .root ∉ (p.relativeTo root).components ∨
      p.relativeTo root = p ∧ ¬ root.components <+: p.components := by
  cases hDrop : dropComponents root.components p.pieces with
  | some rest =>
    obtain ⟨ms, rfl, hms, hSplit⟩ := rest_of_dropComponents hRoot hDrop
    have hComponents : (p.relativeTo root).components = ms.filterMap stepComponent? := by
      rw [relativeTo, relativeTo?, hDrop, Option.map_some, Option.getD_some,
        components_ofPieces_trimSilent hms]
    refine Or.inl ⟨hSplit.trans (by rw [hComponents]), ?_⟩
    rw [hComponents, List.mem_filterMap]
    rintro ⟨m, -, hm⟩
    exact stepComponent?_ne_root m hm
  | none =>
    refine Or.inr ⟨by rw [relativeTo, relativeTo?, hDrop]; rfl, fun hPrefix => ?_⟩
    obtain ⟨rest, hFound⟩ := exists_rest_of_prefix hPrefix
    rw [hDrop] at hFound
    exact Option.some_ne_none _ hFound.symm

/-- The relative path has the components behind those of the root. -/
theorem components_relativeTo (hRoot : root.text ≠ "") {cs : List Component}
    (h : p.components = root.components ++ cs) : (p.relativeTo root).components = cs := by
  rcases relativeTo_cases hRoot with ⟨hSplit, -⟩ | ⟨-, hNot⟩
  · exact List.append_cancel_left (hSplit.symm.trans h)
  · exact absurd ⟨cs, h.symm⟩ hNot

/-- **Nothing but the root is lost**: paths with the same relative components
have the same components. -/
theorem components_eq_of_relativeTo (hp : p.isAbsolute = true) (hq : q.isAbsolute = true)
    (hRoot : root.isAbsolute = true)
    (h : (p.relativeTo root).components = (q.relativeTo root).components) :
    p.components = q.components := by
  have hFirst : ∀ {r : Path}, r.isAbsolute = true → .root ∈ r.components := by
    intro r hr
    rw [components_of_isAbsolute hr]
    exact List.mem_cons_self ..
  have hText := text_ne_of_isAbsolute hRoot
  rcases relativeTo_cases (p := p) hText with ⟨hpSplit, hpRoot⟩ | ⟨hpSame, -⟩ <;>
    rcases relativeTo_cases (p := q) hText with ⟨hqSplit, hqRoot⟩ | ⟨hqSame, -⟩
  · rw [hpSplit, hqSplit, h]
  · rw [h, hqSame] at hpRoot
    exact absurd (hFirst hq) hpRoot
  · rw [← h, hpSame] at hqRoot
    exact absurd (hFirst hp) hqRoot
  · rwa [hpSame, hqSame] at h

/-- What the steps spell, up to silent steps at their ends. -/
def spelled (ns : List String) : Path :=
  ofPieces (trimSilent (((ns.map String.toList).filter (· ≠ [])).map innerPiece))

/-- Behind the pieces of the root stand the names, and then perhaps an empty
piece. -/
theorem pieces_descend (hRoot : root.isAbsolute = true) {ns : List String}
    (hns : ∀ n ∈ ns, '/' ∉ n.toList) :
    ∃ before behind : List Piece,
      (root.tidy.descend ns).pieces =
        before ++ (((ns.map String.toList).filter (· ≠ [])).map innerPiece ++ behind) ∧
      before.filterMap Piece.component? = root.components ∧
      ∀ p ∈ behind, p.component?.isNone := by
  have hTidy := isAbsolute_tidy hRoot
  obtain ⟨ms, hms⟩ : ∃ ms, withoutEmptyEnd root.tidy.steps = [] :: ms := by
    obtain ⟨ms, hne, hSteps⟩ := steps_of_isAbsolute hTidy
    rw [hSteps, withoutEmptyEnd]
    split
    · exact ⟨ms.dropLast, List.dropLast_cons_of_ne_nil hne⟩
    · exact ⟨ms, rfl⟩
  obtain ⟨behind, hBehind, hEnd⟩ := exists_append_of_withoutEmptyEnd (root.tidy.descend ns).steps
  rw [withoutEmptyEnd_steps_descend root.tidy hns, hms] at hEnd
  refine ⟨⟨[], some .root⟩ :: ms.map innerPiece, behind.map innerPiece, ?_, ?_, ?_⟩
  · rw [pieces_of_isAbsolute (isAbsolute_descend hTidy ns), hEnd, List.cons_append,
      List.cons_append, List.tail_cons, List.map_append, List.map_append, List.cons_append,
      List.append_assoc]
  · rw [← components_tidy (text_ne_of_isAbsolute hRoot), components_of_isAbsolute hTidy,
      ← filterMap_withoutEmptyEnd, hms, List.filterMap_cons, List.filterMap_map,
      List.filterMap_cons]
    rfl
  · intro p hp
    obtain ⟨m, hm, rfl⟩ := List.mem_map.1 hp
    rw [hBehind m hm]
    rfl

/-- **The root leaves no trace** in the relative path of what lies below it. -/
theorem relativeTo_descend (hRoot : root.isAbsolute = true) {ns : List String}
    (hns : ∀ n ∈ ns, '/' ∉ n.toList) :
    (root.tidy.descend ns).relativeTo root = spelled ns := by
  obtain ⟨before, behind, hPieces, hBefore, hBehind⟩ := pieces_descend hRoot hns
  obtain ⟨silent, hSilent, hDrop⟩ := dropComponents_append before
    (((ns.map String.toList).filter (· ≠ [])).map innerPiece ++ behind)
  rw [hBefore, ← hPieces] at hDrop
  rw [relativeTo, relativeTo?, hDrop, Option.map_some, Option.getD_some,
    trimSilent_append hSilent hBehind, spelled]

end SourceLint.Path
