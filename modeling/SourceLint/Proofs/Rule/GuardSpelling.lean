import Mathlib.Data.List.Basic
import Mathlib.Data.List.Forall2
import SourceLint.Proofs.Rule.HeaderGuard

/-!
# Guards — the laws of their spelling

A guard is made of names in any script. Each character is uppercased, which may
give several, and what is no capital letter or digit of ASCII then becomes `_`.
Lengths and places do not survive this, but the spelling of a text is put
together from the spellings of its characters, and that is enough for the laws:
case does not matter, names may be joined before or after they are spelled, and
a guard is its own guard.

* `guardSpelling_append`, `guardSpelling_seam` — spelling piece by piece.
* `guardSpelling_recased`                      — it does not see the case.
* `guardSpelling_of_isGuardName`               — it leaves guards alone.
* `expectedGuard_laws`                         — the laws of guards.
-/

namespace SourceLint

-- ---------------------------------------------------------------------------
-- Spelling piece by piece
-- ---------------------------------------------------------------------------

/-- A name is spelled character by character. -/
theorem guardSpelling_eq_flatMap (s : String) :
    guardSpelling s = s.toList.flatMap fun c => (Text.uppercase c).map guardChar := by
  rw [guardSpelling, Text.uppercaseAll, List.map_flatMap]

/-- Characters that are spelled as one character each. -/
theorem guardSpelling_eq_map {s : String} {f : Char → Char}
    (h : ∀ c ∈ s.toList, (Text.uppercase c).map guardChar = [f c]) :
    guardSpelling s = s.toList.map f := by
  rw [guardSpelling_eq_flatMap, List.flatMap_congr h, ← List.map_eq_flatMap]

theorem guardSpelling_append (s t : String) :
    guardSpelling (s ++ t) = guardSpelling s ++ guardSpelling t := by
  rw [guardSpelling_eq_flatMap, String.toList_append, List.flatMap_append,
    ← guardSpelling_eq_flatMap, ← guardSpelling_eq_flatMap]

/-- The slash of a path and the dot of a file name are seams alike. -/
theorem guardSpelling_seam {seam : String} (hSeam : guardSpelling seam = ['_']) (s t : String) :
    guardSpelling (s ++ seam ++ t) = guardSpelling s ++ '_' :: guardSpelling t := by
  rw [guardSpelling_append, guardSpelling_append, hSeam, List.append_assoc, List.singleton_append]

/-- Names that are joined are spelled as they are one by one. -/
theorem guardSpelling_intercalate {seam : String} (hSeam : guardSpelling seam = ['_'])
    (names : List String) :
    guardSpelling (seam.intercalate names) = ['_'].intercalate (names.map guardSpelling) := by
  induction names with
  | nil => rfl
  | cons name names ih =>
    cases names with
    | nil => rw [String.intercalate_singleton, List.map_singleton, List.intercalate_singleton]
    | cons next names =>
      rw [String.intercalate_cons_cons, guardSpelling_seam hSeam, ih, List.map_cons, List.map_cons,
        List.map_cons, List.intercalate_cons_cons, List.append_assoc, List.singleton_append]

-- ---------------------------------------------------------------------------
-- The case of letters
-- ---------------------------------------------------------------------------

/-- The second text is the first with some of its ASCII letters in the other
case. -/
def Recased (s t : String) : Prop :=
  List.Forall₂ (fun c d => d = c ∨ d = c.toUpper ∨ d = c.toLower) s.toList t.toList

instance (s t : String) : Decidable (Recased s t) :=
  inferInstanceAs (Decidable (List.Forall₂ _ _ _))

/-- What does not tell related elements apart maps related lists alike. -/
theorem map_eq_of_forall₂ {α β : Type} {R : α → α → Prop} {f : α → β} {as bs : List α}
    (hSame : ∀ a b, R a b → f b = f a) (h : List.Forall₂ R as bs) : bs.map f = as.map f := by
  induction h with
  | nil => rfl
  | cons hHead _ ih => rw [List.map_cons, List.map_cons, hSame _ _ hHead, ih]

/-- **The spelling does not see the case** of ASCII letters. -/
theorem guardSpelling_recased {s t : String} (h : Recased s t) :
    guardSpelling t = guardSpelling s := by
  have hChars : t.toList.map Text.uppercase = s.toList.map Text.uppercase := by
    refine map_eq_of_forall₂ ?_ h
    rintro c d (rfl | rfl | rfl)
    · rfl
    · exact (Text.uppercase_cased c).1
    · exact (Text.uppercase_cased c).2
  rw [guardSpelling, guardSpelling, Text.uppercaseAll, Text.uppercaseAll, List.flatMap_def,
    List.flatMap_def, hChars]

-- ---------------------------------------------------------------------------
-- Guards are names
-- ---------------------------------------------------------------------------

/-- A guard is spelled as it is. -/
theorem guardSpelling_of_isGuardName {s : String} (hs : IsGuardName s) :
    guardSpelling s = s.toList := by
  have hAscii : ∀ c ∈ Text.asciiChars, (c.isUpper || c.isDigit || c == '_') = true →
      (Text.uppercase c).map guardChar = [c] := by
    decide +kernel
  have hChars : ∀ c ∈ s.toList, (Text.uppercase c).map guardChar = [id c] := fun c hc =>
    hAscii c (Text.mem_asciiChars (toNat_lt_of_guardChar (hs c hc))) (hs c hc)
  rw [guardSpelling_eq_map hChars, List.map_id]

/-- The guard of one name is its spelling. -/
theorem expectedGuard_singleton (name : String) :
    expectedGuard [name] = String.ofList (guardSpelling name) := by
  rw [expectedGuard, List.map_singleton, List.intercalate_singleton]

/-- A guard is the spelled names with `_` between them. -/
theorem expectedGuard_eq_intercalate (names : List String) :
    expectedGuard names =
      "_".intercalate (names.map fun name => String.ofList (guardSpelling name)) := by
  apply String.toList_injective
  rw [expectedGuard, String.toList_ofList, String.toList_intercalate, List.map_map]
  congr 1
  apply List.map_congr_left
  intro name _
  rw [Function.comp_apply, String.toList_ofList]

/--
**The laws of guards**, for names in any script. A guard has capital letters,
digits and `_` only. It does not see the case of the names. The guards of two
parts of a path make up that of the path, and so does the guard of the path in
one piece. And a guard is its own guard.
-/
theorem expectedGuard_laws (names : List String) :
    IsGuardName (expectedGuard names) ∧
    (∀ recased, List.Forall₂ Recased names recased →
      expectedGuard recased = expectedGuard names) ∧
    (∀ more, names ≠ [] → more ≠ [] →
      expectedGuard (names ++ more) = expectedGuard names ++ "_" ++ expectedGuard more) ∧
    expectedGuard ["/".intercalate names] = expectedGuard names ∧
    expectedGuard [expectedGuard names] = expectedGuard names := by
  have hName := isGuardName_expectedGuard names
  refine ⟨hName, ?_, ?_, ?_, ?_⟩
  · intro recased hRecased
    have hSpelled : recased.map guardSpelling = names.map guardSpelling :=
      map_eq_of_forall₂ (fun _ _ => guardSpelling_recased) hRecased
    rw [expectedGuard, expectedGuard, hSpelled]
  · intro more hNames hMore
    rw [expectedGuard_eq_intercalate, expectedGuard_eq_intercalate, expectedGuard_eq_intercalate,
      List.map_append]
    apply String.intercalate_append_of_ne_nil
    · simpa using hNames
    · simpa using hMore
  · rw [expectedGuard_singleton, guardSpelling_intercalate (by decide), expectedGuard]
  · rw [expectedGuard_singleton, guardSpelling_of_isGuardName hName, String.ofList_toList]

/-- Names beyond ASCII: `ß` becomes two letters, and of the two characters that
`ŉ` becomes only one is a letter of a guard. -/
theorem expectedGuard_laws_beyondAscii :
    List.Forall₂ Recased ["groß", "ŉ-list.h"] ["GRoß", "ŉ-LIST.h"] ∧
    expectedGuard ["GRoß", "ŉ-LIST.h"] = expectedGuard ["groß", "ŉ-list.h"] ∧
    expectedGuard (["groß"] ++ ["ŉ-list.h"]) =
      expectedGuard ["groß"] ++ "_" ++ expectedGuard ["ŉ-list.h"] ∧
    expectedGuard ["groß"] = "GROSS" ∧ expectedGuard ["ŉ-list.h"] = "_N_LIST_H" := by
  have hRecased : List.Forall₂ Recased ["groß", "ŉ-list.h"] ["GRoß", "ŉ-LIST.h"] := by
    decide +kernel
  exact ⟨hRecased, (expectedGuard_laws _).2.1 _ hRecased,
    (expectedGuard_laws ["groß"]).2.2.1 _ (by decide) (by decide), by decide +kernel,
    by decide +kernel⟩

end SourceLint
