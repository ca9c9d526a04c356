import SourceLint.Proofs.Glob.Escape

/-!
# Directory patterns

`**/name/**` describes what lies below a directory of that name. Any
directories may come to nothing on both sides, so the name may stand in front
of the first slash, and nothing has to stand behind the last one. What counts is
that the name is all of a step, and that a slash stands behind it.

* `parse_directoryText`     — the name spells itself between the slashes.
* `accepts_directoryPattern` — the name is one of the steps but the last.
-/

namespace SourceLint.Glob

-- ---------------------------------------------------------------------------
-- Texts behind slashes
-- ---------------------------------------------------------------------------

theorem afterSlashes_append_of_not_mem {ks : List Char} (h : '/' ∉ ks) (cs : List Char) :
    afterSlashes (ks ++ cs) = afterSlashes cs := by
  induction ks with
  | nil => rfl
  | cons k ks ih =>
    rw [List.mem_cons, not_or] at h
    rw [List.cons_append, afterSlashes, if_neg (Ne.symm h.1), ih h.2]

/-- A text has one first step. -/
theorem prefix_append_slash_iff {name m : List Char} (hName : '/' ∉ name) (hm : '/' ∉ m)
    (cs : List Char) : name ++ ['/'] <+: m ++ '/' :: cs ↔ name = m := by
  constructor
  · rintro ⟨rest, hText⟩
    have hSteps := congrArg Path.splitSlash hText
    rw [List.append_assoc, List.singleton_append, Path.splitSlash_append_slash,
      Path.splitSlash_append_slash, Path.splitSlash_of_not_mem hName,
      Path.splitSlash_of_not_mem hm] at hSteps
    exact (List.cons.inj hSteps).1
  · rintro rfl
    exact ⟨cs, by rw [List.append_assoc, List.singleton_append]⟩

/-- A step with a slash behind it stands at the beginning or behind another
slash. -/
theorem exists_prefix_intercalate_iff {name : List Char} (hName : '/' ∉ name)
    {ms : List (List Char)} (hms : ∀ m ∈ ms, '/' ∉ m) :
    (∃ s ∈ ['/'].intercalate ms :: afterSlashes (['/'].intercalate ms), name ++ ['/'] <+: s) ↔
      name ∈ ms.dropLast := by
  induction ms with
  | nil => simp [List.intercalate, afterSlashes]
  | cons m ms ih =>
    obtain ⟨hm, hRest⟩ := List.forall_mem_cons.1 hms
    cases ms with
    | nil =>
      have hNone : afterSlashes m = [] := by
        have h := afterSlashes_append_of_not_mem hm []
        rwa [List.append_nil] at h
      have hNot : ¬ name ++ ['/'] <+: m := fun h => hm (h.subset (by simp))
      simpa [List.intercalate, hNone] using hNot
    | cons n ns =>
      rw [List.intercalate_cons_cons, List.append_assoc, List.singleton_append,
        afterSlashes_append_of_not_mem hm, afterSlashes, if_pos rfl, List.exists_mem_cons_iff,
        prefix_append_slash_iff hName hm, ih hRest, List.dropLast_cons_cons, List.mem_cons]

-- ---------------------------------------------------------------------------
-- Directory patterns
-- ---------------------------------------------------------------------------

/-- The text of the pattern of what lies below a directory of that name. -/
def directoryText (name : List Char) : List Char :=
  "**/".toList ++ escape (name ++ ['/']) ++ "**".toList

/-- The pattern of what lies below a directory of that name. -/
def directoryPattern (name : List Char) : Pattern :=
  ⟨.anyDirectories :: ((name ++ ['/']).map escapedToken ++ [.anyDirectories])⟩

theorem parse_directoryText (name : List Char) :
    Pattern.parse (directoryText name) = .ok (directoryPattern name) := by
  have hBehind := toOption_parseFrom_escape 3 0 true (name ++ ['/']) ['*', '*']
  rw [List.foldl_append] at hBehind
  have hText :
      directoryText name = '*' :: '*' :: '/' :: (escape (name ++ ['/']) ++ ['*', '*']) := by
    simp [directoryText]
  rw [← toOption_eq_some_iff, Pattern.parse, hText, parseFrom, toOption_map, toOption_map, hBehind]
  rfl

theorem describes_anyDirectories (cs : List Char) : describes [.anyDirectories] cs = true := by
  rw [describes, describes, describes, List.isEmpty_nil, Bool.or_true]

/-- **A directory pattern describes the texts in which the name is a step with a
slash behind it.** -/
theorem accepts_directoryPattern {name : List Char} (hName : '/' ∉ name) (cs : List Char) :
    (directoryPattern name).accepts cs = true ↔ name ∈ (Path.splitSlash cs).dropLast := by
  have hBehind : ∀ ds, describes ((name ++ ['/']).map escapedToken ++ [.anyDirectories]) ds = true ↔
      name ++ ['/'] <+: ds := by
    intro ds
    rw [describes_map_escapedToken_append]
    constructor
    · rintro ⟨es, rfl, -⟩
      exact List.prefix_append _ _
    · rintro ⟨es, rfl⟩
      exact ⟨es, rfl, describes_anyDirectories es⟩
  have hSteps := exists_prefix_intercalate_iff hName fun m (hm : m ∈ Path.splitSlash cs) =>
    Path.not_mem_of_mem_splitSlash hm
  rw [Path.intercalate_splitSlash, List.exists_mem_cons_iff] at hSteps
  rw [Pattern.accepts_eq_describes, directoryPattern, describes, Bool.or_eq_true, Bool.or_eq_true,
    List.any_eq_true, ← hSteps]
  simp only [hBehind, List.prefix_nil, List.append_eq_nil_iff, List.cons_ne_self, and_false,
    or_false]

end SourceLint.Glob
