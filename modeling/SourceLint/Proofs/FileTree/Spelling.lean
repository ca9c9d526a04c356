import SourceLint.Proofs.FileTree.Resolve
import SourceLint.Proofs.Path.Relative

/-!
# File trees — the characters of paths that lead somewhere

A path that leads somewhere is made of names of the tree, dots and slashes. So
a character that no name in the tree has stands in no such path
(`not_mem_text`), nor in what is left of it behind a root
(`mem_text_relativeTo`).

* `NoName`               — no name in the tree has a character.
* `not_mem_text`         — nor has a path that leads somewhere.
* `mem_text_relativeTo`  — a relative path has no characters of its own.
-/

namespace SourceLint

-- ---------------------------------------------------------------------------
-- What is left behind a root
-- ---------------------------------------------------------------------------

namespace Path

variable {p root : Path} {c : Char}

theorem mem_text_ofPieces {ps : List Piece} (h : c ∈ (ofPieces ps).text.toList) :
    c = '/' ∨ ∃ piece ∈ ps, c ∈ piece.text := by
  unfold ofPieces at h
  split at h
  case h_1 piece =>
    split at h
    · exact Or.inl (List.mem_singleton.1 h)
    · rw [String.toList_ofList] at h
      exact Or.inr ⟨piece, List.mem_singleton_self _, h⟩
  case h_2 =>
    rw [String.toList_ofList] at h
    rcases mem_of_mem_intercalate h with hSlash | ⟨m, hm, hc⟩
    · exact Or.inl (List.mem_singleton.1 hSlash)
    · obtain ⟨piece, hPiece, rfl⟩ := List.mem_map.1 hm
      exact Or.inr ⟨piece, hPiece, hc⟩

theorem mem_text_of_mem_step {m : List Char} (hm : m ∈ p.steps) (hc : c ∈ m) :
    c ∈ p.text.toList := by
  rw [← intercalate_splitSlash p.text.toList]
  exact mem_intercalate_of_mem hm hc

/-- A relative path has no characters of its own but slashes. -/
theorem mem_text_relativeTo (h : c ∈ (p.relativeTo root).text.toList) :
    c = '/' ∨ c ∈ p.text.toList := by
  rw [relativeTo, relativeTo?] at h
  cases hDrop : dropComponents root.components p.pieces with
  | none =>
    rw [hDrop] at h
    exact Or.inr h
  | some rest =>
    rw [hDrop] at h
    refine (mem_text_ofPieces h).imp_right ?_
    rintro ⟨piece, hPiece, hc⟩
    obtain ⟨before, hPieces, -⟩ := dropComponents_eq_some hDrop
    have hRest : piece ∈ rest := by
      rw [trimSilent, trimSilentEnd_eq_rdropWhile] at hPiece
      exact (List.dropWhile_sublist _).mem ((List.rdropWhile_prefix _ _).mem hPiece)
    have hAll : piece ∈ p.pieces := hPieces ▸ List.mem_append_right before hRest
    exact mem_text_of_mem_step (text_mem_of_mem_pieces hAll) hc

end Path

-- ---------------------------------------------------------------------------
-- Paths that lead somewhere
-- ---------------------------------------------------------------------------

namespace FileTree

variable {t u : FileTree} {p : Path} {names : List String} {c : Char}

/-- What names lead to is listed. -/
theorem mem_listing_of_at? (hNames : names ≠ []) (hAt : at? names t = some u) :
    (names, u) ∈ t.listing := by
  induction names generalizing t with
  | nil => exact absurd rfl hNames
  | cons name names ih =>
    obtain ⟨child, hLookup, hRest⟩ := Option.bind_eq_some_iff.1 hAt
    cases t with
    | file content => exact absurd hLookup (Option.some_ne_none _).symm
    | dir entries =>
      obtain ⟨before, after, hSplit, -⟩ := List.lookup_eq_some_iff.1 hLookup
      have hEntry : (name, child) ∈ entries := by
        rw [show entries = before ++ (name, child) :: after from hSplit]
        exact List.mem_append_right _ (List.mem_cons_self ..)
      rw [listing_dir, List.mem_flatMap]
      refine ⟨(name, child), hEntry, ?_⟩
      cases names with
      | nil =>
        cases hRest
        exact List.mem_cons_self ..
      | cons n ns =>
        exact List.mem_cons_of_mem _ (List.mem_map.2 ⟨_, ih (List.cons_ne_nil n ns) hRest, rfl⟩)

/-- No name in the tree has the character. -/
def NoName (c : Char) (t : FileTree) : Prop :=
  ∀ e ∈ t.listing, ∀ name ∈ e.1, c ∉ name.toList

instance (c : Char) (t : FileTree) : Decidable (t.NoName c) :=
  List.decidableBAll _ _

theorem NoName.at? (h : t.NoName c) (hAt : at? names t = some u) {name : String}
    (hName : name ∈ names) : c ∉ name.toList :=
  h (names, u) (mem_listing_of_at? (List.ne_nil_of_mem hName) hAt) name hName

/-- A step that leads on is silent, leads back or is a name of the tree. -/
theorem NoName.step (h : t.NoName c) (hDot : c ≠ '.') {place next : Place} {m : List Char}
    (hPlace : Leads t place) (hStep : place.step m = some next) : c ∉ m := by
  have hNext := hPlace.step hStep
  obtain ⟨here, above⟩ := place
  cases here with
  | file content => exact absurd hStep (Option.some_ne_none _).symm
  | dir entries =>
    by_cases hSilent : m = [] ∨ m = ['.']
    · rcases hSilent with rfl | rfl
      · exact List.not_mem_nil
      · simpa using hDot
    by_cases hUp : m = ['.', '.']
    · subst hUp
      simpa using hDot
    · rw [step_name hSilent hUp, Option.map_eq_some_iff] at hStep
      obtain ⟨child, -, rfl⟩ := hStep
      have hAt := hNext.at?
      rw [names_cons] at hAt
      simpa using h.at? hAt (List.mem_append_right _ (List.mem_singleton_self _))

/-- **A path that leads somewhere** has no character that no name has. -/
theorem NoName.not_mem_text (h : t.NoName c) (hDot : c ≠ '.') (hSlash : c ≠ '/') {place : Place}
    (hFollow : t.follow? p = some place) : c ∉ p.text.toList := by
  have hSteps : ∀ (ms : List (List Char)) {start : Place}, Leads t start →
      ms.foldlM Place.step start = some place → ∀ m ∈ ms, c ∉ m := by
    intro ms
    induction ms with
    | nil => exact fun _ _ _ hm => absurd hm List.not_mem_nil
    | cons m ms ih =>
      intro start hStart hFold
      obtain ⟨next, hStep, hRest⟩ := Option.bind_eq_some_iff.1 hFold
      exact List.forall_mem_cons.2 ⟨h.step hDot hStart hStep, ih (hStart.step hStep) hRest⟩
  intro hText
  rw [← Path.intercalate_splitSlash p.text.toList] at hText
  rcases Path.mem_of_mem_intercalate hText with hc | ⟨m, hm, hc⟩
  · exact hSlash (List.mem_singleton.1 hc)
  · exact hSteps p.steps .top hFollow m hm hc

end FileTree

end SourceLint
