import SourceLint.Path.Relative
import SourceLint.Proofs.Bytewise.Text
import SourceLint.Proofs.Path.Order
import SourceLint.Proofs.Path.Steps

/-!
# Paths in bytes

A path is taken apart at its slashes and dots, which are the same in the bytes
of its text. So whatever is done to paths may be done to their bytes: their
steps, their order, one path continued by another, and one relative to another.

* `components_spelled`  — the components in bytes.
* `le_spelled`          — the order of paths.
* `spelled_join`        — a path continued by another.
* `relativeTo_spelled`  — a path relative to a root.
-/

namespace SourceLint.Bytewise

open SourceLint.Path (splitSlash Component Piece firstPiece innerPiece)

variable {p root : Path}

-- ---------------------------------------------------------------------------
-- Steps
-- ---------------------------------------------------------------------------

theorem slash_ascii : '/'.toNat < 0x80 := by decide

theorem splitSlash_spellChars (cs : List Char) :
    splitSlash (spellChars cs) = (splitSlash cs).map spellChars :=
  Path.splitSlash_flatMap (by decide)
    (fun _ hc hMem => hc ((mem_spellChar_iff slash_ascii).1 hMem).symm) cs

theorem steps_spelled (p : Path) : (spelled p).steps = p.steps.map spellChars := by
  rw [Path.steps, Path.steps, spelled, toList_spell, splitSlash_spellChars]

-- ---------------------------------------------------------------------------
-- Components
-- ---------------------------------------------------------------------------

/-- The component in bytes. -/
def spellComponent : Component → Component
  | .name name => .name (spell name)
  | .root => .root
  | .here => .here
  | .up => .up

/-- The piece in bytes. -/
def spellPiece (piece : Piece) : Piece :=
  ⟨spellChars piece.text, piece.component?.map spellComponent⟩

theorem spellComponent_injective : Function.Injective spellComponent := by
  intro c d h
  cases c <;> cases d
  case name.name s t => rw [spell_injective (Component.name.inj h)]
  all_goals first | rfl | cases h

/-- What is spelled as itself is told by its bytes. -/
theorem spellChars_eq_iff {as cs : List Char} (h : spellChars as = as) :
    spellChars cs = as ↔ cs = as :=
  ⟨fun hEq => spellChars_injective (hEq.trans h.symm), fun hEq => hEq ▸ h⟩

theorem spellChars_eq_nil_iff {cs : List Char} : spellChars cs = [] ↔ cs = [] :=
  spellChars_eq_iff rfl

theorem spellChars_eq_here_iff {cs : List Char} : spellChars cs = ['.'] ↔ cs = ['.'] :=
  spellChars_eq_iff (by decide)

theorem spellChars_eq_up_iff {cs : List Char} : spellChars cs = ['.', '.'] ↔ cs = ['.', '.'] :=
  spellChars_eq_iff (by decide)

theorem innerPiece_spellChars (cs : List Char) :
    innerPiece (spellChars cs) = spellPiece (innerPiece cs) := by
  unfold innerPiece
  simp only [spellChars_eq_nil_iff, spellChars_eq_here_iff, spellChars_eq_up_iff]
  split
  · rfl
  · split
    · rfl
    · rw [spellPiece, Option.map_some, spellComponent, spell, String.toList_ofList]

theorem firstPiece_spellChars (cs : List Char) (alone : Bool) :
    firstPiece (spellChars cs) alone = spellPiece (firstPiece cs alone) := by
  unfold firstPiece
  simp only [spellChars_eq_nil_iff, spellChars_eq_here_iff, innerPiece_spellChars]
  split
  · cases alone <;> rfl
  · split <;> rfl

theorem pieces_spelled (p : Path) : (spelled p).pieces = p.pieces.map spellPiece := by
  rw [Path.pieces, Path.pieces, spelled, toList_spell, splitSlash_spellChars]
  cases splitSlash p.text.toList with
  | nil => rfl
  | cons cs rest =>
    have hInner : innerPiece ∘ spellChars = spellPiece ∘ innerPiece := funext innerPiece_spellChars
    simp only [List.map_cons, List.map_map, List.isEmpty_map, firstPiece_spellChars, hInner]

/-- The components of the bytes are those of the text in bytes. -/
theorem components_spelled (p : Path) :
    (spelled p).components = p.components.map spellComponent := by
  rw [Path.components, Path.components, pieces_spelled, List.filterMap_map, List.map_filterMap]
  rfl

theorem components_spelled_eq_iff {q : Path} :
    (spelled p).components = (spelled q).components ↔ p.components = q.components := by
  rw [components_spelled, components_spelled]
  exact (List.map_injective_iff.2 spellComponent_injective).eq_iff

theorem components_spelled_eq_here_iff :
    (spelled p).components = [.here] ↔ p.components = [.here] := by
  rw [components_spelled]
  exact (List.map_injective_iff.2 spellComponent_injective).eq_iff (b := [.here])

theorem isAbsolute_spelled (p : Path) : (spelled p).isAbsolute = p.isAbsolute := by
  rw [Bool.eq_iff_iff, Path.isAbsolute_iff, Path.isAbsolute_iff, spelled, toList_spell]
  cases p.text.toList with
  | nil => simp
  | cons c cs =>
    rw [spellChars_cons]
    constructor
    · rintro ⟨ds, hSpell⟩
      have hMem : '/' ∈ spellChar c := by
        obtain ⟨x, xs, hCons⟩ := List.exists_cons_of_ne_nil (spellChar_ne_nil c)
        rw [hCons, List.cons_append, List.cons.injEq] at hSpell
        rw [hCons, hSpell.1]
        exact List.mem_cons_self ..
      exact ⟨cs, by rw [(mem_spellChar_iff slash_ascii).1 hMem]⟩
    · rintro ⟨ds, hCons⟩
      rw [(List.cons.inj hCons).1, spellChar_ascii slash_ascii]
      exact ⟨_, rfl⟩

theorem fileName?_spelled (p : Path) : (spelled p).fileName? = p.fileName?.map spell := by
  rw [Path.fileName?, Path.fileName?, components_spelled, List.getLast?_map]
  cases p.components.getLast? with
  | none => rfl
  | some c => cases c <;> rfl

-- ---------------------------------------------------------------------------
-- Order
-- ---------------------------------------------------------------------------

theorem compare_spellComponent (c d : Component) :
    compare (spellComponent c) (spellComponent d) = compare c d := by
  cases c <;> cases d
  case name.name s t =>
    rw [spellComponent, spellComponent, Component.compare_name, Component.compare_name,
      compare_spell]
  all_goals rfl

theorem compare_map_spellComponent (cs ds : List Component) :
    compare (cs.map spellComponent) (ds.map spellComponent) = compare cs ds := by
  have hCons : ∀ (c d : Component) (cs ds : List Component),
      compare (c :: cs) (d :: ds) = (compare c d).then (compare cs ds) :=
    fun _ _ _ _ => List.compareLex_cons_cons
  induction cs generalizing ds with
  | nil => cases ds <;> rfl
  | cons c cs ih =>
    cases ds with
    | nil => rfl
    | cons d ds =>
      rw [List.map_cons, List.map_cons, hCons, hCons, compare_spellComponent, ih]

/-- **Paths are ordered as their bytes are.** -/
theorem le_spelled (p q : Path) : (spelled p).le (spelled q) = p.le q := by
  rw [Path.le, Path.le, components_spelled, components_spelled, compare_map_spellComponent]

-- ---------------------------------------------------------------------------
-- Paths made of paths
-- ---------------------------------------------------------------------------

theorem spell_append (s t : String) : spell (s ++ t) = spell s ++ spell t := by
  rw [spell, String.toList_append, spellChars_append, String.ofList_append]
  rfl

/-- The last byte is a slash if the last character is one. -/
theorem getLast?_spellChars_iff {cs : List Char} :
    (spellChars cs).getLast? = some '/' ↔ cs.getLast? = some '/' := by
  rcases List.eq_nil_or_concat cs with rfl | ⟨front, c, rfl⟩
  · rfl
  · rw [List.concat_eq_append, spellChars_append, List.getLast?_concat, spellChars_cons,
      spellChars_nil, List.append_nil, List.getLast?_append_of_ne_nil _ (spellChar_ne_nil c),
      Option.some_inj]
    constructor
    · exact fun hLast => ((mem_spellChar_iff slash_ascii).1 (List.mem_of_getLast? hLast)).symm
    · rintro rfl
      rw [spellChar_ascii slash_ascii]
      rfl

/-- A path may be continued before or after it is spelled. -/
theorem spelled_join (p q : Path) : spelled (p.join q) = (spelled p).join (spelled q) := by
  have hSlash : spell "/" = "/" := by decide
  rw [Path.join, Path.join, isAbsolute_spelled]
  split
  · rfl
  · simp only [spelled, toList_spell, spellChars_eq_nil_iff, getLast?_spellChars_iff]
    split
    · rw [spell_append]
    · rw [spell_append, spell_append, hSlash]

theorem spelled_child (p : Path) (name : String) :
    spelled (p.child name) = (spelled p).child (spell name) :=
  spelled_join p ⟨name⟩

-- ---------------------------------------------------------------------------
-- Relative paths
-- ---------------------------------------------------------------------------

theorem isNone_spellPiece (piece : Piece) :
    (spellPiece piece).component?.isNone = piece.component?.isNone :=
  Option.isNone_map

theorem dropComponents_map (cs : List Component) (ps : List Piece) :
    Path.dropComponents (cs.map spellComponent) (ps.map spellPiece) =
      (Path.dropComponents cs ps).map (List.map spellPiece) := by
  induction ps generalizing cs with
  | nil => cases cs <;> rfl
  | cons p ps ih =>
    cases cs with
    | nil => rfl
    | cons c cs =>
      rw [List.map_cons, List.map_cons, Path.dropComponents, Path.dropComponents, spellPiece]
      cases p.component? with
      | none => exact ih (c :: cs)
      | some d =>
        simp only [Option.map_some, spellComponent_injective.eq_iff]
        split
        · exact ih cs
        · rfl

theorem trimSilentEnd_map (ps : List Piece) :
    Path.trimSilentEnd (ps.map spellPiece) = (Path.trimSilentEnd ps).map spellPiece := by
  induction ps with
  | nil => rfl
  | cons p ps ih =>
    rw [List.map_cons, Path.trimSilentEnd, Path.trimSilentEnd, ih]
    cases Path.trimSilentEnd ps with
    | nil =>
      simp only [List.map_nil, isNone_spellPiece]
      split <;> rfl
    | cons q qs => rfl

theorem trimSilent_map_spellPiece (ps : List Piece) :
    Path.trimSilent (ps.map spellPiece) = (Path.trimSilent ps).map spellPiece := by
  rw [Path.trimSilent, Path.trimSilent, List.dropWhile_map, ← trimSilentEnd_map]
  simp only [Function.comp_def, isNone_spellPiece]

theorem spellChars_intercalate (ms : List (List Char)) :
    spellChars (['/'].intercalate ms) = ['/'].intercalate (ms.map spellChars) := by
  have hSlash : spellChars ['/'] = ['/'] := by decide
  induction ms with
  | nil => rfl
  | cons m ms ih =>
    cases ms with
    | nil => rw [List.map_singleton, List.intercalate_singleton, List.intercalate_singleton]
    | cons n ms =>
      rw [List.map_cons] at ih ⊢
      rw [List.intercalate_cons_cons, spellChars_append, spellChars_append, ih, hSlash,
        List.map_cons, List.intercalate_cons_cons]

theorem ofPieces_map_spellPiece (ps : List Piece) :
    Path.ofPieces (ps.map spellPiece) = spelled (Path.ofPieces ps) := by
  have hMany : ∀ ps : List Piece,
      (⟨String.ofList (['/'].intercalate ((ps.map spellPiece).map (·.text)))⟩ : Path) =
        spelled ⟨String.ofList (['/'].intercalate (ps.map (·.text)))⟩ := by
    intro ps
    rw [spelled, spell, String.toList_ofList, spellChars_intercalate, List.map_map, List.map_map]
    rfl
  cases ps with
  | nil => exact hMany []
  | cons p ps =>
    cases ps with
    | nil =>
      have hRoot : (spellPiece p).component? = some .root ↔ p.component? = some .root := by
        rw [spellPiece]
        exact (Option.map_injective spellComponent_injective).eq_iff (b := some .root)
      simp only [List.map_singleton, Path.ofPieces, hRoot]
      split
      · decide
      · rw [spelled, spell, String.toList_ofList]
        rfl
    | cons q qs => exact hMany (p :: q :: qs)

/-- **A path may be made relative before or after it is spelled.** -/
theorem relativeTo_spelled (p root : Path) :
    (spelled p).relativeTo (spelled root) = spelled (p.relativeTo root) := by
  have hRest : (spelled p).relativeTo? (spelled root) = (p.relativeTo? root).map spelled := by
    rw [Path.relativeTo?, Path.relativeTo?, components_spelled, pieces_spelled, dropComponents_map,
      Option.map_map, Option.map_map]
    congr 1
    funext rest
    simp only [Function.comp_apply, trimSilent_map_spellPiece, ofPieces_map_spellPiece]
  rw [Path.relativeTo, Path.relativeTo, hRest]
  cases p.relativeTo? root <;> rfl

end SourceLint.Bytewise
