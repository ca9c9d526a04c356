import SourceLint.Proofs.Path.Steps

/-!
# Paths — going down, with single slashes

Whoever follows a path name by name writes every slash once: `a//b` is reached
as `a/b`. That is the *tidy* form of a path. It has the same components and is
not longer, and going down from it continues it.

* `components_descend`                — what going down adds.
* `components_tidy`, `size_tidy_le`   — the tidy form of a path.
* `tidy_join`                         — the tidy form of a continued path.
-/

namespace SourceLint.Path

-- ---------------------------------------------------------------------------
-- Going down
-- ---------------------------------------------------------------------------

/-- The path continued by the names one after the other. -/
def descend (p : Path) (names : List String) : Path :=
  names.foldl child p

@[simp] theorem descend_nil (p : Path) : p.descend [] = p := rfl

@[simp] theorem descend_cons (p : Path) (n : String) (ns : List String) :
    p.descend (n :: ns) = (p.child n).descend ns := rfl

theorem descend_append (p : Path) (ns ms : List String) :
    p.descend (ns ++ ms) = (p.descend ns).descend ms :=
  List.foldl_append ..

/-- An empty name leaves only a slash, which the next name needs anyway. -/
theorem child_empty_child (p : Path) {n : String} (hn : '/' ∉ n.toList) :
    (p.child "").child n = p.child n := by
  apply eq_of_steps_eq
  rw [steps_child _ hn, steps_child _ hn, steps_child p (by simp), String.toList_empty,
    withoutEmptyEnd_append_one, if_pos rfl]

/-- Going down appends the names that are not empty. -/
theorem withoutEmptyEnd_steps_descend (p : Path) {ns : List String}
    (hns : ∀ n ∈ ns, '/' ∉ n.toList) :
    withoutEmptyEnd (p.descend ns).steps =
      withoutEmptyEnd p.steps ++ (ns.map String.toList).filter (· ≠ []) := by
  induction ns generalizing p with
  | nil => simp
  | cons n ns ih =>
    obtain ⟨hn, hRest⟩ := List.forall_mem_cons.1 hns
    rw [descend_cons, ih (p.child n) hRest, steps_child p hn, withoutEmptyEnd_append_one]
    by_cases h : n.toList = []
    · rw [if_pos h, List.map_cons, List.filter_cons_of_neg (by simp [h])]
    · rw [if_neg h, List.map_cons, List.filter_cons_of_pos (by simp [h]), List.append_assoc,
        List.singleton_append]

theorem isAbsolute_descend {p : Path} (hp : p.isAbsolute = true) (ns : List String) :
    (p.descend ns).isAbsolute = true := by
  induction ns generalizing p with
  | nil => exact hp
  | cons n ns ih => exact ih (isAbsolute_child hp n)

theorem text_descend_ne {p : Path} (hp : p.text ≠ "") (ns : List String) :
    (p.descend ns).text ≠ "" := by
  induction ns generalizing p with
  | nil => exact hp
  | cons n ns ih => exact ih (text_child_ne hp n)

theorem components_descend {p : Path} (hp : p.text ≠ "") {ns : List String}
    (hns : ∀ n ∈ ns, '/' ∉ n.toList) :
    (p.descend ns).components =
      p.components ++ ns.filterMap fun n => stepComponent? n.toList := by
  induction ns generalizing p with
  | nil => simp
  | cons n ns ih =>
    obtain ⟨hn, hRest⟩ := List.forall_mem_cons.1 hns
    rw [descend_cons, ih (text_child_ne hp n) hRest, components_child hp hn, List.append_assoc]
    cases h : stepComponent? n.toList <;> simp [h]

-- ---------------------------------------------------------------------------
-- Single slashes
-- ---------------------------------------------------------------------------

/-- Where a path starts, before its first step. -/
def start (p : Path) : Path :=
  if p.isAbsolute then ⟨"/"⟩ else ⟨""⟩

/-- The steps of the path as names, from where it starts. -/
def stepNames (p : Path) : List String :=
  ((if p.isAbsolute then p.steps.tail else p.steps).map String.ofList)

/-- The path taken step by step; doubled slashes become single ones. -/
def tidy (p : Path) : Path :=
  p.start.descend p.stepNames

theorem not_mem_stepNames (p : Path) : ∀ n ∈ p.stepNames, '/' ∉ n.toList := by
  intro n hn
  obtain ⟨m, hm, rfl⟩ := List.mem_map.1 hn
  rw [String.toList_ofList]
  have hStep : m ∈ p.steps := by
    split at hm
    · exact List.mem_of_mem_tail hm
    · exact hm
  exact not_mem_of_mem_splitSlash hStep

theorem stepNames_of_isAbsolute {p : Path} (hp : p.isAbsolute = true) :
    p.steps = [] :: p.stepNames.map String.toList := by
  obtain ⟨ms, -, hSteps⟩ := steps_of_isAbsolute hp
  rw [stepNames, if_pos hp, hSteps, List.tail_cons, List.map_map, String.toList_comp_ofList,
    List.map_id]

theorem stepNames_of_relative {p : Path} (hp : p.isAbsolute = false) :
    p.steps = p.stepNames.map String.toList := by
  rw [stepNames, if_neg (by simp [hp]), List.map_map, String.toList_comp_ofList, List.map_id]

theorem isAbsolute_tidy {p : Path} (hp : p.isAbsolute = true) : p.tidy.isAbsolute = true := by
  rw [tidy, start, if_pos hp]
  exact isAbsolute_descend (by decide) _

theorem empty_child {n : String} (hn : '/' ∉ n.toList) : (⟨""⟩ : Path).child n = ⟨n⟩ := by
  have hEmpty : (⟨""⟩ : Path).text.toList = [] := String.toList_empty
  rw [child, join, if_neg (by simp [isAbsolute_ofList hn]), if_pos (Or.inl hEmpty),
    String.empty_append]

/-- From its start a relative path takes its first step as it is. -/
theorem tidy_of_relative {p : Path} (hText : p.text ≠ "") (hp : p.isAbsolute = false) :
    ∃ n ns, n ≠ "" ∧ p.stepNames = n :: ns ∧ p.tidy = Path.descend ⟨n⟩ ns := by
  obtain ⟨m, ms, hm, hSteps⟩ := steps_of_relative hText hp
  have hNames : p.stepNames = String.ofList m :: ms.map String.ofList := by
    rw [stepNames, if_neg (by simp [hp]), hSteps, List.map_cons]
  have hSlash : '/' ∉ (String.ofList m).toList :=
    not_mem_stepNames p _ (hNames ▸ List.mem_cons_self ..)
  refine ⟨String.ofList m, ms.map String.ofList, ?_, hNames, ?_⟩
  · rw [ne_eq, String.ofList_eq_empty_iff]
    exact hm
  · rw [tidy, start, if_neg (by simp [hp]), hNames, descend_cons, empty_child hSlash]

theorem text_tidy_ne {p : Path} (hp : p.text ≠ "") : p.tidy.text ≠ "" := by
  cases hAbs : p.isAbsolute with
  | true => exact text_ne_of_isAbsolute (isAbsolute_tidy hAbs)
  | false =>
    obtain ⟨n, ns, hn, -, hTidy⟩ := tidy_of_relative hp hAbs
    rw [hTidy]
    exact text_descend_ne hn ns

theorem components_tidy {p : Path} (hp : p.text ≠ "") : p.tidy.components = p.components := by
  cases hAbs : p.isAbsolute with
  | true =>
    rw [tidy, start, if_pos hAbs, components_descend (by decide) (not_mem_stepNames p),
      components_of_isAbsolute hAbs, stepNames_of_isAbsolute hAbs, List.filterMap_cons,
      List.filterMap_map]
    rfl
  | false =>
    obtain ⟨n, ns, hn, hNames, hTidy⟩ := tidy_of_relative hp hAbs
    have hSlash := not_mem_stepNames p
    rw [hNames, List.forall_mem_cons] at hSlash
    have hSteps : p.steps = n.toList :: ns.map String.toList := by
      rw [stepNames_of_relative hAbs, hNames, List.map_cons]
    have hOne : (⟨n⟩ : Path).steps = [n.toList] := splitSlash_of_not_mem hSlash.1
    have hFirst : ∀ alone alone', firstPiece n.toList alone = firstPiece n.toList alone' := by
      have hEmpty : n.toList ≠ [] := by simpa using hn
      intro alone alone'
      rw [firstPiece, firstPiece, if_neg hEmpty, if_neg hEmpty]
    rw [hTidy, components_descend hn hSlash.2, components_of_steps hOne, components_of_steps hSteps,
      List.filterMap_nil, List.append_nil, List.filterMap_map,
      hFirst _ (ns.map String.toList).isEmpty]
    rfl

theorem stepNames_ne_nil (p : Path) : p.stepNames ≠ [] := by
  intro hNil
  cases hp : p.isAbsolute with
  | true =>
    obtain ⟨ms, hms, hSteps⟩ := steps_of_isAbsolute hp
    rw [stepNames_of_isAbsolute hp, hNil, List.cons.injEq] at hSteps
    exact hms hSteps.2.symm
  | false =>
    have hSteps := stepNames_of_relative hp
    rw [hNil] at hSteps
    exact splitSlash_ne_nil _ hSteps

theorem isAbsolute_join_eq (p : Path) {q : Path} (hq : q.isAbsolute = false) :
    (p.join q).isAbsolute = p.isAbsolute := by
  cases hp : p.isAbsolute with
  | true => exact isAbsolute_join hp q
  | false =>
    rw [join, if_neg (by simp [hq])]
    cases hText : p.text.toList with
    | nil =>
      rw [if_pos (Or.inl rfl), ← hq, isAbsolute, isAbsolute, String.toList_append, hText]
      rfl
    | cons c cs =>
      have hFirst : c ≠ '/' := by
        intro h
        rw [isAbsolute, hText, h] at hp
        simp at hp
      split <;> simp [isAbsolute, hText, hFirst]

/-- The step names of a continued path, of which an empty last one is lost. -/
theorem stepNames_join (p : Path) {q : Path} (hq : q.isAbsolute = false) :
    ∃ ns n, p.stepNames = ns ++ [n] ∧
      (p.join q).stepNames = (if n = "" then ns else ns ++ [n]) ++ q.stepNames := by
  obtain ⟨ns, n, hNames⟩ : ∃ ns n, p.stepNames = ns ++ [n] := by
    rcases List.eq_nil_or_concat p.stepNames with h | ⟨ns, n, h⟩
    · exact absurd h (stepNames_ne_nil p)
    · exact ⟨ns, n, by rw [h, List.concat_eq_append]⟩
  refine ⟨ns, n, hNames, ?_⟩
  have hSteps := steps_join p hq
  have hMap : (p.join q).stepNames.map String.toList =
      (if n.toList = [] then ns.map String.toList else ns.map String.toList ++ [n.toList]) ++
        q.stepNames.map String.toList := by
    cases hp : p.isAbsolute with
    | true =>
      -- both sides begin with the empty step in front of the first slash
      rw [stepNames_of_isAbsolute (isAbsolute_join hp q), stepNames_of_isAbsolute hp,
        stepNames_of_relative hq, hNames, List.map_append, List.map_singleton,
        ← List.cons_append, withoutEmptyEnd_append_one] at hSteps
      split at hSteps
      case isTrue hn => rw [if_pos hn]; exact List.tail_eq_of_cons_eq hSteps
      case isFalse hn => rw [if_neg hn]; exact List.tail_eq_of_cons_eq hSteps
    | false =>
      have hJoin : (p.join q).isAbsolute = false := by rw [isAbsolute_join_eq p hq, hp]
      rw [stepNames_of_relative hJoin, stepNames_of_relative hp, stepNames_of_relative hq,
        hNames, List.map_append, List.map_singleton, withoutEmptyEnd_append_one] at hSteps
      exact hSteps
  have hInj : Function.Injective (List.map String.toList) :=
    List.map_injective_iff.2 fun _ _ h => String.toList_injective h
  apply hInj
  rw [hMap, List.map_append]
  by_cases hn : n = ""
  · rw [if_pos hn, if_pos (String.toList_eq_nil_iff.2 hn)]
  · rw [if_neg hn, if_neg (hn ∘ String.toList_eq_nil_iff.1), List.map_append, List.map_singleton]

/-- A continued path is tidied by continuing the tidied path step by step. -/
theorem tidy_join (p : Path) {q : Path} (hq : q.isAbsolute = false) :
    (p.join q).tidy = p.tidy.descend q.stepNames := by
  obtain ⟨ns, n, hNames, hJoin⟩ := stepNames_join p hq
  have hStart : (p.join q).start = p.start := by rw [start, start, isAbsolute_join_eq p hq]
  rw [tidy, tidy, hStart, hJoin, hNames, descend_append, descend_append]
  split
  case isFalse => rw [descend_append]
  case isTrue hn =>
    subst hn
    obtain ⟨m, ms, hq'⟩ := List.exists_cons_of_ne_nil (stepNames_ne_nil q)
    have hm : '/' ∉ m.toList := not_mem_stepNames q m (hq' ▸ List.mem_cons_self ..)
    rw [hq', descend_cons, descend_cons, descend_cons, descend_nil, child_empty_child _ hm]

/-- Going down from a path is going down from its tidy form. -/
theorem tidy_descend (p : Path) {ns : List String} (hns : ∀ n ∈ ns, '/' ∉ n.toList) :
    (p.descend ns).tidy = p.tidy.descend ns := by
  induction ns generalizing p with
  | nil => rfl
  | cons n ns ih =>
    obtain ⟨hn, hRest⟩ := List.forall_mem_cons.1 hns
    have hAbs := isAbsolute_ofList hn
    have hNames : (⟨n⟩ : Path).stepNames = [n] := by
      apply List.map_injective_iff.2 (fun _ _ hList => String.toList_injective hList)
      rw [← stepNames_of_relative hAbs, steps, splitSlash_of_not_mem hn]
      rfl
    rw [descend_cons, ih _ hRest, child, tidy_join p hAbs, hNames]
    rfl

-- ---------------------------------------------------------------------------
-- Length
-- ---------------------------------------------------------------------------

/-- What the names take together, with some bytes more for each. -/
def namesSize (more : Nat) : List String → Nat
  | [] => 0
  | n :: ns => n.utf8ByteSize + more + namesSize more ns

theorem namesSize_append (more : Nat) (ns ms : List String) :
    namesSize more (ns ++ ms) = namesSize more ns + namesSize more ms := by
  induction ns with
  | nil => rw [List.nil_append, namesSize, Nat.zero_add]
  | cons n ns ih =>
    rw [List.cons_append, namesSize, namesSize, ih]
    omega

theorem size_child_le (p : Path) (n : String) :
    (p.child n).text.utf8ByteSize ≤ p.text.utf8ByteSize + (n.utf8ByteSize + 1) := by
  have hSlash : "/".utf8ByteSize = 1 := rfl
  rw [child, join]
  split
  · exact Nat.le_trans (Nat.le_succ _) (Nat.le_add_left ..)
  · split <;> simp only [String.utf8ByteSize_append, hSlash] <;> omega

theorem size_add_le_size_child (p : Path) {n : String} (hn : '/' ∉ n.toList) :
    p.text.utf8ByteSize + n.utf8ByteSize ≤ (p.child n).text.utf8ByteSize := by
  rw [child, join, if_neg (by simp [isAbsolute_ofList hn])]
  split <;> simp only [String.utf8ByteSize_append] <;> omega

/-- A name that is the first behind the start of a path needs no slash. -/
theorem size_child_start_le (p : Path) (n : String) :
    (p.start.child n).text.utf8ByteSize ≤ p.start.text.utf8ByteSize + n.utf8ByteSize := by
  rw [child, join]
  split
  · exact Nat.le_add_left ..
  · have hStart : p.start.text.toList = [] ∨ p.start.text.toList.getLast? = some '/' := by
      rw [start]
      split
      · exact Or.inr rfl
      · exact Or.inl rfl
    rw [if_pos hStart]
    exact Nat.le_of_eq (String.utf8ByteSize_append ..)

theorem size_descend_le (p : Path) (ns : List String) :
    (p.descend ns).text.utf8ByteSize ≤
      p.text.utf8ByteSize + namesSize 1 ns := by
  induction ns generalizing p with
  | nil => exact Nat.le_refl _
  | cons n ns ih =>
    have hChild := size_child_le p n
    have hRest := ih (p.child n)
    rw [descend_cons, namesSize]
    omega

theorem size_add_le_size_descend (p : Path) {ns : List String} (hns : ∀ n ∈ ns, '/' ∉ n.toList) :
    p.text.utf8ByteSize + namesSize 0 ns ≤ (p.descend ns).text.utf8ByteSize := by
  induction ns generalizing p with
  | nil => exact Nat.le_refl _
  | cons n ns ih =>
    obtain ⟨hn, hRest⟩ := List.forall_mem_cons.1 hns
    have hChild := size_add_le_size_child p hn
    have hBelow := ih (p.child n) hRest
    rw [descend_cons, namesSize]
    omega

/-- A path is its start and its step names with slashes between them. -/
theorem toList_text (p : Path) :
    p.text.toList = p.start.text.toList ++ ['/'].intercalate (p.stepNames.map String.toList) := by
  rw [← intercalate_splitSlash p.text.toList]
  show ['/'].intercalate p.steps = _
  cases hp : p.isAbsolute with
  | true =>
    rw [start, if_pos hp, stepNames_of_isAbsolute hp, List.intercalate_cons_of_ne_nil]
    · rfl
    · rw [ne_eq, List.map_eq_nil_iff]
      exact stepNames_ne_nil p
  | false =>
    rw [start, if_neg (by simp [hp]), stepNames_of_relative hp]
    rfl

theorem size_intercalate (n : String) (ns : List String) :
    (String.ofList (['/'].intercalate ((n :: ns).map String.toList))).utf8ByteSize =
      n.utf8ByteSize + namesSize 1 ns := by
  induction ns generalizing n with
  | nil => simp [namesSize]
  | cons m ns ih =>
    have hSlash : (String.ofList ['/']).utf8ByteSize = 1 := rfl
    rw [List.map_cons, List.map_cons, List.intercalate_cons_cons, String.ofList_append,
      String.ofList_append, String.utf8ByteSize_append, String.utf8ByteSize_append,
      ← List.map_cons, ih m, hSlash, String.ofList_toList, namesSize]
    omega

/-- Single slashes make no path longer. -/
theorem size_tidy_le (p : Path) : p.tidy.text.utf8ByteSize ≤ p.text.utf8ByteSize := by
  obtain ⟨n, ns, hNames⟩ := List.exists_cons_of_ne_nil (stepNames_ne_nil p)
  have hText : p.text.utf8ByteSize =
      p.start.text.utf8ByteSize + (n.utf8ByteSize + namesSize 1 ns) := by
    rw [← size_intercalate, ← hNames, ← String.utf8ByteSize_append]
    congr 1
    apply String.toList_injective
    rw [String.toList_append, String.toList_ofList]
    exact toList_text p
  have hFirst := size_child_start_le p n
  have hRest := size_descend_le (p.start.child n) ns
  rw [tidy, hNames, descend_cons]
  omega

end SourceLint.Path
