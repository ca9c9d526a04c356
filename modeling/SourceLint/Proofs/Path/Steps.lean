import Mathlib.Data.List.Basic
import SourceLint.Path.Basic

/-!
# Paths — steps, and what they come to when a path is continued

A path is taken step by step, a step being what stands between two slashes.
Continuing a path appends steps, up to an empty step that a slash at the end
leaves behind (`steps_join`). Only the first step of a path is read in a way of
its own, so behind a path that is not empty components are appended as well.

* `steps_join`, `steps_child`            — the steps of a continued path.
* `eq_of_steps_eq`                       — a path is what its steps are.
* `components_join`, `components_child`  — the components of a continued path.
* `components_of_relative`               — the components of a path of names.
-/

namespace SourceLint.Path

-- ---------------------------------------------------------------------------
-- Splitting at slashes
-- ---------------------------------------------------------------------------

theorem splitSlash_ne_nil (cs : List Char) : splitSlash cs ≠ [] := by
  cases cs with
  | nil => exact List.cons_ne_nil _ _
  | cons c cs =>
    rw [splitSlash]
    split
    · exact List.cons_ne_nil _ _
    · split <;> exact List.cons_ne_nil _ _

theorem splitSlash_cons_slash (cs : List Char) : splitSlash ('/' :: cs) = [] :: splitSlash cs := by
  rw [splitSlash]
  cases h : splitSlash cs with
  | nil => exact absurd h (splitSlash_ne_nil cs)
  | cons m ms => rfl

theorem splitSlash_cons_of_ne {c : Char} (hc : c ≠ '/') (cs : List Char) :
    ∃ m ms, splitSlash cs = m :: ms ∧ splitSlash (c :: cs) = (c :: m) :: ms := by
  cases h : splitSlash cs with
  | nil => exact absurd h (splitSlash_ne_nil cs)
  | cons m ms => exact ⟨m, ms, rfl, by rw [splitSlash, h]; simp [hc]⟩

/-- A slash ends a step. -/
theorem splitSlash_append_slash (as bs : List Char) :
    splitSlash (as ++ '/' :: bs) = splitSlash as ++ splitSlash bs := by
  induction as with
  | nil => rw [List.nil_append, splitSlash_cons_slash]; rfl
  | cons a as ih =>
    by_cases ha : a = '/'
    · subst ha
      rw [List.cons_append, splitSlash_cons_slash, splitSlash_cons_slash, ih, List.cons_append]
    · obtain ⟨m, ms, hSplit, hCons⟩ := splitSlash_cons_of_ne ha as
      obtain ⟨m', ms', hSplit', hCons'⟩ := splitSlash_cons_of_ne ha (as ++ '/' :: bs)
      rw [ih, hSplit, List.cons_append, List.cons.injEq] at hSplit'
      rw [List.cons_append, hCons', hCons, List.cons_append, ← hSplit'.1, ← hSplit'.2]

theorem splitSlash_of_not_mem {cs : List Char} (h : '/' ∉ cs) : splitSlash cs = [cs] := by
  induction cs with
  | nil => rfl
  | cons c cs ih =>
    rw [List.mem_cons, not_or] at h
    obtain ⟨m, ms, hSplit, hCons⟩ := splitSlash_cons_of_ne (Ne.symm h.1) cs
    rw [ih h.2, List.cons.injEq] at hSplit
    rw [hCons, ← hSplit.1, ← hSplit.2]

theorem splitSlash_append_of_not_mem {ks : List Char} (hks : '/' ∉ ks) {cs m : List Char}
    {ms : List (List Char)} (h : splitSlash cs = m :: ms) :
    splitSlash (ks ++ cs) = (ks ++ m) :: ms := by
  induction ks with
  | nil => exact h
  | cons k ks ih =>
    rw [List.mem_cons, not_or] at hks
    obtain ⟨m', ms', hSplit, hCons⟩ := splitSlash_cons_of_ne (Ne.symm hks.1) (ks ++ cs)
    rw [ih hks.2, List.cons.injEq] at hSplit
    rw [List.cons_append, hCons, ← hSplit.1, ← hSplit.2, List.cons_append]

/-- Characters may be replaced before or after a text is split, if slashes are kept. -/
theorem splitSlash_flatMap {f : Char → List Char} (hSlash : f '/' = ['/'])
    (hOther : ∀ c, c ≠ '/' → '/' ∉ f c) (cs : List Char) :
    splitSlash (cs.flatMap f) = (splitSlash cs).map (·.flatMap f) := by
  induction cs with
  | nil => rfl
  | cons c cs ih =>
    by_cases hc : c = '/'
    · subst hc
      rw [List.flatMap_cons, hSlash, List.singleton_append, splitSlash_cons_slash,
        splitSlash_cons_slash, ih, List.map_cons, List.flatMap_nil]
    · obtain ⟨m, ms, hSplit, hCons⟩ := splitSlash_cons_of_ne hc cs
      rw [hSplit, List.map_cons] at ih
      rw [hCons, List.flatMap_cons, splitSlash_append_of_not_mem (hOther c hc) ih, List.map_cons,
        List.flatMap_cons]

theorem not_mem_of_mem_splitSlash {cs m : List Char} (hm : m ∈ splitSlash cs) : '/' ∉ m := by
  induction cs generalizing m with
  | nil =>
    rw [splitSlash, List.mem_singleton] at hm
    rw [hm]
    exact List.not_mem_nil
  | cons c cs ih =>
    by_cases hc : c = '/'
    · subst hc
      rw [splitSlash_cons_slash, List.mem_cons] at hm
      rcases hm with rfl | hm
      · exact List.not_mem_nil
      · exact ih hm
    · obtain ⟨n, ms, hSplit, hCons⟩ := splitSlash_cons_of_ne hc cs
      rw [hCons, List.mem_cons] at hm
      rw [hSplit] at ih
      rcases hm with rfl | hm
      · rw [List.mem_cons, not_or]
        exact ⟨Ne.symm hc, ih (List.mem_cons_self ..)⟩
      · exact ih (List.mem_cons_of_mem _ hm)

/-- Steps that are put together with slashes are found again. -/
theorem splitSlash_intercalate {ms : List (List Char)} (hms : ms ≠ [])
    (h : ∀ m ∈ ms, '/' ∉ m) : splitSlash (['/'].intercalate ms) = ms := by
  induction ms with
  | nil => exact absurd rfl hms
  | cons m ms ih =>
    have hm := splitSlash_of_not_mem (h m (List.mem_cons_self ..))
    cases ms with
    | nil => simpa [List.intercalate] using hm
    | cons n ns =>
      have hRest := ih (List.cons_ne_nil n ns) fun k hk => h k (List.mem_cons_of_mem _ hk)
      rw [List.intercalate_cons_cons, List.append_assoc, List.singleton_append,
        splitSlash_append_slash, hm, hRest]
      rfl

/-- A text is its steps with slashes between them. -/
theorem intercalate_splitSlash (cs : List Char) : ['/'].intercalate (splitSlash cs) = cs := by
  induction cs with
  | nil => rfl
  | cons c cs ih =>
    by_cases hc : c = '/'
    · subst hc
      rw [splitSlash_cons_slash, List.intercalate_cons_of_ne_nil (splitSlash_ne_nil cs), ih]
      rfl
    · obtain ⟨m, ms, hSplit, hCons⟩ := splitSlash_cons_of_ne hc cs
      rw [hSplit] at ih
      rw [hCons, ← ih]
      cases ms <;> simp

/-- What stands in texts that are put together stands in one of them or between
them. -/
theorem mem_of_mem_intercalate {c : Char} {between : List Char} {ms : List (List Char)}
    (h : c ∈ between.intercalate ms) : c ∈ between ∨ ∃ m ∈ ms, c ∈ m := by
  induction ms with
  | nil => cases h
  | cons m ms ih =>
    cases ms with
    | nil => exact Or.inr ⟨m, List.mem_cons_self .., by simpa [List.intercalate] using h⟩
    | cons n ns =>
      rw [List.intercalate_cons_cons, List.append_assoc, List.mem_append, List.mem_append] at h
      rcases h with hm | hBetween | hRest
      · exact Or.inr ⟨m, List.mem_cons_self .., hm⟩
      · exact Or.inl hBetween
      · exact (ih hRest).imp_right fun ⟨k, hk, hc⟩ => ⟨k, List.mem_cons_of_mem _ hk, hc⟩

theorem mem_intercalate_of_mem {c : Char} {between m : List Char} {ms : List (List Char)}
    (hm : m ∈ ms) (hc : c ∈ m) : c ∈ between.intercalate ms := by
  induction ms with
  | nil => cases hm
  | cons n ns ih =>
    rcases List.mem_cons.1 hm with rfl | hRest
    · cases ns with
      | nil => simpa [List.intercalate] using hc
      | cons k ks =>
        rw [List.intercalate_cons_cons, List.append_assoc]
        exact List.mem_append_left _ hc
    · rw [List.intercalate_cons_of_ne_nil (List.ne_nil_of_mem hRest)]
      exact List.mem_append_right _ (ih hRest)

/-- The last step is empty only behind a slash. -/
theorem getLast?_splitSlash_append_one {c : Char} (hc : c ≠ '/') (cs : List Char) :
    (splitSlash (cs ++ [c])).getLast? ≠ some [] := by
  induction cs with
  | nil => rw [List.nil_append, splitSlash_of_not_mem (by simpa using Ne.symm hc)]; simp
  | cons d ds ih =>
    by_cases hd : d = '/'
    · subst hd
      rw [List.cons_append, splitSlash_cons_slash, List.getLast?_cons]
      cases h : (splitSlash (ds ++ [c])).getLast? with
      | none => exact absurd (List.getLast?_eq_none_iff.1 h) (splitSlash_ne_nil _)
      | some m =>
        rw [h] at ih
        simpa using ih
    · obtain ⟨m, ms, hSplit, hCons⟩ := splitSlash_cons_of_ne hd (ds ++ [c])
      rw [List.cons_append, hCons]
      rw [hSplit] at ih
      cases ms with
      | nil => simp
      | cons n ns => simpa using ih

-- ---------------------------------------------------------------------------
-- Steps
-- ---------------------------------------------------------------------------

/-- What stands between the slashes of the path. -/
def steps (p : Path) : List (List Char) :=
  splitSlash p.text.toList

/-- The steps without an empty one at the end. -/
def withoutEmptyEnd (ms : List (List Char)) : List (List Char) :=
  if ms.getLast? = some [] then ms.dropLast else ms

/-- A path is what its steps are. -/
theorem eq_of_steps_eq {p q : Path} (h : p.steps = q.steps) : p = q := by
  have hText : p.text.toList = q.text.toList := by
    rw [← intercalate_splitSlash p.text.toList, ← intercalate_splitSlash q.text.toList]
    exact congrArg _ h
  exact congrArg Path.mk (String.toList_injective hText)

theorem withoutEmptyEnd_append_one (ms : List (List Char)) (m : List Char) :
    withoutEmptyEnd (ms ++ [m]) = if m = [] then ms else ms ++ [m] := by
  simp [withoutEmptyEnd]

theorem exists_append_of_withoutEmptyEnd (ms : List (List Char)) :
    ∃ behind : List (List Char), (∀ m ∈ behind, m = []) ∧ ms = withoutEmptyEnd ms ++ behind := by
  rw [withoutEmptyEnd]
  split
  case isTrue h =>
    refine ⟨[[]], by simp, ?_⟩
    exact (List.dropLast_append_getLast? [] h).symm
  case isFalse => exact ⟨[], by simp, by simp⟩

theorem isAbsolute_iff {p : Path} : p.isAbsolute = true ↔ ∃ cs, p.text.toList = '/' :: cs := by
  rw [isAbsolute, decide_eq_true_eq]
  cases p.text.toList <;> simp

/-- Continuing a path appends the steps of the continuation. -/
theorem steps_join (p : Path) {q : Path} (hq : q.isAbsolute = false) :
    (p.join q).steps = withoutEmptyEnd p.steps ++ q.steps := by
  rw [join, if_neg (by simp [hq]), steps, steps, steps]
  rcases List.eq_nil_or_concat p.text.toList with hNil | ⟨cs, c, hText⟩
  · rw [if_pos (Or.inl hNil), String.toList_append, hNil]
    rfl
  · rw [List.concat_eq_append] at hText
    have hNe : p.text.toList ≠ [] := by simp [hText]
    by_cases hc : c = '/'
    · subst hc
      rw [if_pos (Or.inr (by simp [hText])), String.toList_append, hText, List.append_assoc,
        List.singleton_append, splitSlash_append_slash, splitSlash_append_slash]
      rw [show splitSlash [] = [[]] from rfl, withoutEmptyEnd_append_one, if_pos rfl]
    · have hLast : (splitSlash p.text.toList).getLast? ≠ some [] := by
        rw [hText]
        exact getLast?_splitSlash_append_one hc cs
      rw [if_neg (by simp [hText, hc]), String.toList_append, String.toList_append,
        withoutEmptyEnd, if_neg hLast, List.append_assoc]
      exact splitSlash_append_slash _ _

theorem isAbsolute_ofList {n : String} (hn : '/' ∉ n.toList) :
    (⟨n⟩ : Path).isAbsolute = false := by
  rw [Bool.eq_false_iff, ne_eq, isAbsolute_iff]
  rintro ⟨cs, h⟩
  exact hn (h ▸ List.mem_cons_self ..)

theorem steps_child (p : Path) {n : String} (hn : '/' ∉ n.toList) :
    (p.child n).steps = withoutEmptyEnd p.steps ++ [n.toList] := by
  rw [child, steps_join p (isAbsolute_ofList hn), steps, steps, splitSlash_of_not_mem hn]

/-- A continued absolute path is absolute, whatever it is continued with. -/
theorem isAbsolute_join {p : Path} (hp : p.isAbsolute = true) (q : Path) :
    (p.join q).isAbsolute = true := by
  obtain ⟨cs, hText⟩ := isAbsolute_iff.1 hp
  rw [join]
  split
  · assumption
  · split <;> exact isAbsolute_iff.2 ⟨_, by
      simp only [String.toList_append, hText, List.cons_append]; rfl⟩

theorem isAbsolute_child {p : Path} (hp : p.isAbsolute = true) (n : String) :
    (p.child n).isAbsolute = true :=
  isAbsolute_join hp _

theorem text_ne_of_isAbsolute {p : Path} (hp : p.isAbsolute = true) : p.text ≠ "" := by
  intro hText
  rw [isAbsolute, hText] at hp
  cases hp

/-- A continued path is not empty. -/
theorem text_join_ne {p : Path} (hp : p.text ≠ "") (q : Path) : (p.join q).text ≠ "" := by
  have hEmpty : ∀ {s : String}, s ≠ "" → ∀ t, s ++ t ≠ "" := by
    intro s hs t h
    exact hs (String.append_eq_empty_iff.1 h).1
  rw [join]
  split
  case isTrue hAbs => exact text_ne_of_isAbsolute hAbs
  case isFalse =>
    split
    · exact hEmpty hp _
    · exact hEmpty (hEmpty hp _) _

theorem text_child_ne {p : Path} (hp : p.text ≠ "") (n : String) : (p.child n).text ≠ "" :=
  text_join_ne hp _

/-- The steps of an absolute path begin with an empty one. -/
theorem steps_of_isAbsolute {p : Path} (hp : p.isAbsolute = true) :
    ∃ ms, ms ≠ [] ∧ p.steps = [] :: ms := by
  obtain ⟨cs, hText⟩ := isAbsolute_iff.1 hp
  exact ⟨splitSlash cs, splitSlash_ne_nil cs, by rw [steps, hText, splitSlash_cons_slash]⟩

/-- The steps of a relative path begin with one that is not empty, unless the
path is. -/
theorem steps_of_relative {p : Path} (hText : p.text ≠ "") (hp : p.isAbsolute = false) :
    ∃ m ms, m ≠ [] ∧ p.steps = m :: ms := by
  cases hChars : p.text.toList with
  | nil => exact absurd (String.toList_eq_nil_iff.1 hChars) hText
  | cons c cs =>
    have hc : c ≠ '/' := by
      rintro rfl
      rw [isAbsolute, hChars] at hp
      cases hp
    obtain ⟨m, ms, -, hCons⟩ := splitSlash_cons_of_ne hc cs
    exact ⟨c :: m, ms, List.cons_ne_nil _ _, by rw [steps, hChars, hCons]⟩

-- ---------------------------------------------------------------------------
-- Components
-- ---------------------------------------------------------------------------

/-- The component that a step stands for, the first step of a path apart. -/
def stepComponent? (m : List Char) : Option Component :=
  (innerPiece m).component?

/-- Inside a path a step is silent, or it is `..` or a name. -/
theorem up_or_name_of_stepComponent? {m : List Char} {c : Component}
    (h : stepComponent? m = some c) : c = .up ∨ ∃ n, c = .name n := by
  rw [stepComponent?, innerPiece] at h
  split at h
  · cases h
  · split at h
    · exact Or.inl (Option.some.inj h).symm
    · exact Or.inr ⟨_, (Option.some.inj h).symm⟩

theorem stepComponent?_ne_root (m : List Char) : stepComponent? m ≠ some .root := by
  intro h
  rcases up_or_name_of_stepComponent? h with hUp | ⟨n, hName⟩
  · cases hUp
  · cases hName

theorem stepComponent?_ne_here (m : List Char) : stepComponent? m ≠ some .here := by
  intro h
  rcases up_or_name_of_stepComponent? h with hUp | ⟨n, hName⟩
  · cases hUp
  · cases hName

theorem stepComponent?_eq_none_iff {m : List Char} :
    stepComponent? m = none ↔ m = [] ∨ m = ['.'] := by
  rw [stepComponent?, innerPiece]
  split
  case isTrue h => exact iff_of_true rfl h
  case isFalse h => split <;> exact iff_of_false (Option.some_ne_none _) h

theorem pieces_of_isAbsolute {p : Path} (hp : p.isAbsolute = true) :
    p.pieces = ⟨[], some .root⟩ :: p.steps.tail.map innerPiece := by
  obtain ⟨ms, hms, hSteps⟩ := steps_of_isAbsolute hp
  rw [steps] at hSteps
  rw [pieces, steps, hSteps]
  simp [firstPiece, hms]

/-- The components of an absolute path are the root and those of its steps. -/
theorem components_of_isAbsolute {p : Path} (hp : p.isAbsolute = true) :
    p.components = .root :: p.steps.filterMap stepComponent? := by
  obtain ⟨ms, -, hSteps⟩ := steps_of_isAbsolute hp
  rw [components, pieces_of_isAbsolute hp, hSteps, List.tail_cons, List.filterMap_cons,
    List.filterMap_map, List.filterMap_cons]
  rfl

/-- The first step has a component of its own kind, the others are alike. -/
theorem components_of_steps {p : Path} {m : List Char} {ms : List (List Char)}
    (hSteps : p.steps = m :: ms) :
    p.components =
      (firstPiece m ms.isEmpty).component?.toList ++ ms.filterMap stepComponent? := by
  have hOthers : (ms.map innerPiece).filterMap (·.component?) = ms.filterMap stepComponent? :=
    List.filterMap_map
  rw [steps] at hSteps
  rw [components, pieces, hSteps]
  show ((firstPiece m ms.isEmpty :: ms.map innerPiece).filterMap _) = _
  rw [List.filterMap_cons, hOthers]
  cases (firstPiece m ms.isEmpty).component? <;> rfl

/-- A first step that is neither empty nor `.` is like the others. -/
theorem components_of_loud_step {p : Path} {m : List Char} {ms : List (List Char)}
    (hSteps : p.steps = m :: ms) (hEmpty : m ≠ []) (hHere : m ≠ ['.']) :
    p.components = p.steps.filterMap stepComponent? := by
  rw [components_of_steps hSteps, firstPiece, if_neg hEmpty, if_neg hHere, hSteps,
    List.filterMap_cons]
  show (stepComponent? m).toList ++ _ = _
  cases stepComponent? m <;> rfl

/-- A path whose components do not begin at the root or in `.` is relative, and
its components are those of its steps. -/
theorem components_of_relative {p : Path} (hRoot : .root ∉ p.components)
    (hHere : .here ∉ p.components) :
    p.isAbsolute = false ∧ p.components = p.steps.filterMap stepComponent? := by
  constructor
  · rw [Bool.eq_false_iff]
    intro hAbs
    rw [components_of_isAbsolute hAbs] at hRoot
    exact hRoot (List.mem_cons_self ..)
  · obtain ⟨m, ms, hSteps⟩ := List.exists_cons_of_ne_nil (splitSlash_ne_nil p.text.toList)
    by_cases hEmpty : m = []
    · cases ms with
      | nil => rw [components_of_steps hSteps, steps, hSteps, hEmpty]; rfl
      | cons n ns => rw [components_of_steps hSteps, hEmpty] at hRoot; simp [firstPiece] at hRoot
    · by_cases hDot : m = ['.']
      · rw [components_of_steps hSteps, hDot] at hHere
        simp [firstPiece] at hHere
      · exact components_of_loud_step hSteps hEmpty hDot

/-- The names of a path of names are its components. -/
theorem names_of_components {p : Path} {names : List String}
    (h : p.components = names.map Component.name) : p.names = names := by
  rw [Path.names, h, List.filterMap_map]
  exact List.filterMap_some

theorem filterMap_withoutEmptyEnd (ms : List (List Char)) :
    (withoutEmptyEnd ms).filterMap stepComponent? = ms.filterMap stepComponent? := by
  rcases List.eq_nil_or_concat ms with rfl | ⟨ms, m, rfl⟩
  · rfl
  · rw [List.concat_eq_append, withoutEmptyEnd_append_one]
    split
    case isTrue hm => subst hm; rw [List.filterMap_append]; simp [stepComponent?, innerPiece]
    case isFalse => rfl

theorem withoutEmptyEnd_cons {m : List Char} (hm : m ≠ []) (ms : List (List Char)) :
    withoutEmptyEnd (m :: ms) = m :: withoutEmptyEnd ms := by
  cases ms with
  | nil => simp [withoutEmptyEnd, hm]
  | cons k ks =>
    rw [withoutEmptyEnd, withoutEmptyEnd, List.getLast?_cons_cons, List.dropLast_cons_cons]
    split <;> rfl

/-- Only of the empty path is the first component lost when it is continued. -/
theorem components_join {p q : Path} (hp : p.text ≠ "") (hq : q.isAbsolute = false) :
    (p.join q).components = p.components ++ q.steps.filterMap stepComponent? := by
  cases hAbs : p.isAbsolute with
  | true =>
    rw [components_of_isAbsolute (isAbsolute_join hAbs q), components_of_isAbsolute hAbs,
      steps_join p hq, List.filterMap_append, filterMap_withoutEmptyEnd, List.cons_append]
  | false =>
    obtain ⟨m, ms, hm, hSteps⟩ := steps_of_relative hp hAbs
    have hJoin : (p.join q).steps = m :: (withoutEmptyEnd ms ++ q.steps) := by
      rw [steps_join p hq, hSteps, withoutEmptyEnd_cons hm, List.cons_append]
    have hFirst : ∀ alone alone', firstPiece m alone = firstPiece m alone' := by
      intro alone alone'
      rw [firstPiece, firstPiece, if_neg hm, if_neg hm]
    rw [components_of_steps hJoin, components_of_steps hSteps, List.filterMap_append,
      filterMap_withoutEmptyEnd, List.append_assoc, hFirst _ ms.isEmpty]

theorem components_child {p : Path} (hp : p.text ≠ "") {n : String}
    (hn : '/' ∉ n.toList) :
    (p.child n).components = p.components ++ (stepComponent? n.toList).toList := by
  rw [child, components_join hp (isAbsolute_ofList hn), steps, splitSlash_of_not_mem hn]
  cases h : stepComponent? n.toList <;> simp [h]

end SourceLint.Path
