import SourceLint.Proofs.FileTree.Listing

/-!
# File trees — where paths lead

A path leads on from where its beginning leads (`follow?_join`), and a path
with single slashes leads where the path leads (`follow?_tidy`). Below a
directory, names lead to what they are looked up to (`find?_descend`).

The way back to the top matters only to `..`: without it, what steps lead to
depends on nothing but the tree in which they are taken (`map_here_foldlM`).

* `find?_eq`        — a path is followed unless it is too long.
* `follow?_join`    — a continued path.
* `find?_descend`   — names below a path.
* `follow?_detour`  — into a directory and back.
* `at?_of_follow?`  — the names of a place lead to it.
-/

namespace SourceLint.FileTree

open SourceLint.Path (steps tidy descend withoutEmptyEnd namesSize)

-- ---------------------------------------------------------------------------
-- Single steps
-- ---------------------------------------------------------------------------

section Step

variable {entries : List (String × FileTree)} {above : List (String × FileTree)} {m : List Char}

theorem step_silent (h : m = [] ∨ m = ['.']) :
    (Place.mk (.dir entries) above).step m = some ⟨.dir entries, above⟩ := by
  rw [Place.step]
  simp only [h, if_true]

theorem step_name (hSilent : ¬ (m = [] ∨ m = ['.'])) (hUp : m ≠ ['.', '.']) :
    (Place.mk (.dir entries) above).step m = (entries.lookup (String.ofList m)).map fun child =>
      ⟨child, (String.ofList m, .dir entries) :: above⟩ := by
  rw [Place.step]
  simp only [hSilent, hUp, if_false]

end Step

/-- A step by a name that can stand in a directory leads to its entry. -/
theorem step_entryName {name : String} (hName : IsEntryName name) (place : Place) :
    place.step name.toList = (place.here.entries.lookup name).map fun child =>
      ⟨child, (name, place.here) :: place.above⟩ := by
  obtain ⟨hEmpty, hHere, hUp, -⟩ := hName
  have hNe : ∀ {s : String}, name ≠ s → name.toList ≠ s.toList := fun h hEq =>
    h (String.toList_injective hEq)
  obtain ⟨here, above⟩ := place
  cases here with
  | file content => rfl
  | dir entries =>
    have hSilent : ¬ (name.toList = [] ∨ name.toList = ['.']) :=
      not_or.2 ⟨hNe hEmpty, hNe hHere⟩
    rw [step_name hSilent (hNe hUp), String.ofList_toList]
    rfl

/-- An empty step only asks for a directory, as the next step does anyway. -/
theorem step_empty_bind (place : Place) (m : List Char) :
    (place.step []).bind (·.step m) = place.step m := by
  obtain ⟨here, above⟩ := place
  cases here <;> rfl

theorem step_empty_foldlM (place : Place) {ms : List (List Char)} (hms : ms ≠ []) :
    (place.step []).bind (ms.foldlM Place.step) = ms.foldlM Place.step place := by
  obtain ⟨m, ms, rfl⟩ := List.exists_cons_of_ne_nil hms
  rw [List.foldlM_cons, ← step_empty_bind place m]
  exact (Option.bind_assoc ..).symm

theorem foldlM_withoutEmptyEnd (place : Place) (ms : List (List Char)) {ks : List (List Char)}
    (hks : ks ≠ []) :
    (withoutEmptyEnd ms ++ ks).foldlM Place.step place = (ms ++ ks).foldlM Place.step place := by
  rcases List.eq_nil_or_concat ms with rfl | ⟨ms, m, rfl⟩
  · rfl
  · rw [List.concat_eq_append, Path.withoutEmptyEnd_append_one]
    split
    case isFalse => rfl
    case isTrue hm =>
      subst hm
      rw [List.append_assoc, List.foldlM_append, List.foldlM_append]
      congr 1
      funext q
      rw [List.singleton_append, List.foldlM_cons]
      exact (step_empty_foldlM q hks).symm

-- ---------------------------------------------------------------------------
-- Paths
-- ---------------------------------------------------------------------------

variable {t sub : FileTree} {p q : Path}

theorem follow?_eq (t : FileTree) (p : Path) :
    t.follow? p = p.steps.foldlM Place.step ⟨t, []⟩ := rfl

/-- A continued path leads on from where the path leads. -/
theorem follow?_join (t : FileTree) (p : Path) (hq : q.isAbsolute = false) :
    t.follow? (p.join q) = (t.follow? p).bind (q.steps.foldlM Place.step) := by
  have hSteps : q.steps ≠ [] := Path.splitSlash_ne_nil _
  rw [follow?_eq, Path.steps_join p hq, foldlM_withoutEmptyEnd _ _ hSteps, List.foldlM_append]
  rfl

theorem follow?_child (t : FileTree) (p : Path) {n : String} (hn : '/' ∉ n.toList) :
    t.follow? (p.child n) = (t.follow? p).bind (·.step n.toList) := by
  rw [Path.child, follow?_join t p (Path.isAbsolute_ofList hn), steps,
    Path.splitSlash_of_not_mem hn]
  cases t.follow? p with
  | none => rfl
  | some place => exact (Option.bind_some ..).trans (Option.bind_fun_some ..)

theorem follow?_descend (t : FileTree) (p : Path) {ns : List String}
    (hns : ∀ n ∈ ns, '/' ∉ n.toList) :
    t.follow? (p.descend ns) = (t.follow? p).bind ((ns.map String.toList).foldlM Place.step) := by
  induction ns generalizing p with
  | nil => exact (Option.bind_fun_some ..).symm
  | cons n ns ih =>
    obtain ⟨hn, hRest⟩ := List.forall_mem_cons.1 hns
    rw [Path.descend_cons, ih (p.child n) hRest, follow?_child t p hn, Option.bind_assoc]
    rfl

theorem follow?_tidy (t : FileTree) (p : Path) : t.follow? p.tidy = t.follow? p := by
  have hSteps : p.stepNames.map String.toList ≠ [] := by
    rw [ne_eq, List.map_eq_nil_iff]
    exact Path.stepNames_ne_nil p
  -- the root and the empty path both come to one empty step
  have hTop : t.follow? p.start = (Place.mk t []).step [] := by
    rw [Path.start]
    split <;> cases t <;> rfl
  rw [tidy, follow?_descend t _ (Path.not_mem_stepNames p), hTop, step_empty_foldlM _ hSteps,
    follow?_eq]
  cases hp : p.isAbsolute with
  | true =>
    rw [Path.stepNames_of_isAbsolute hp, List.foldlM_cons]
    exact (step_empty_foldlM _ hSteps).symm
  | false => rw [Path.stepNames_of_relative hp]

/-- A path is followed unless it is too long for the system. -/
theorem find?_eq (t : FileTree) (p : Path) :
    t.find? p =
      if p.text.utf8ByteSize ≤ maxPathBytes then (t.follow? p).map (·.here) else none := by
  have hFollow : t.follow? (Path.join ⟨"/"⟩ p) = t.follow? p := by
    cases hp : p.isAbsolute with
    | true => rw [Path.join, if_pos hp]
    | false =>
      have hTop : t.follow? ⟨"/"⟩ = (Place.mk t []).step [] := by
        cases t <;> rfl
      rw [follow?_join t _ hp, hTop, follow?_eq t p]
      exact step_empty_foldlM _ (Path.splitSlash_ne_nil _)
  rw [find?, findIn?, placeIn?, hFollow]
  split <;> rfl

theorem find?_eq_some_iff :
    t.find? p = some sub ↔
      p.text.utf8ByteSize ≤ maxPathBytes ∧ ∃ above, t.follow? p = some ⟨sub, above⟩ := by
  rw [find?_eq]
  split
  case isFalse h => simp [h]
  case isTrue h =>
    rw [Option.map_eq_some_iff]
    constructor
    · rintro ⟨⟨here, above⟩, hFollow, rfl⟩
      exact ⟨h, above, hFollow⟩
    · rintro ⟨-, above, hFollow⟩
      exact ⟨_, hFollow, rfl⟩

theorem find?_tidy (h : t.find? p = some sub) : t.find? p.tidy = some sub := by
  obtain ⟨hSize, above, hFollow⟩ := find?_eq_some_iff.1 h
  refine find?_eq_some_iff.2 ⟨Nat.le_trans (Path.size_tidy_le p) hSize, above, ?_⟩
  rw [follow?_tidy, hFollow]

theorem hasDir_iff : t.hasDir p = true ↔ ∃ entries, t.find? p = some (.dir entries) := by
  rw [hasDir, Option.any_eq_true]
  constructor
  · rintro ⟨u, hFind, hDir⟩
    cases u with
    | file content => exact absurd hDir Bool.false_ne_true
    | dir entries => exact ⟨entries, hFind⟩
  · rintro ⟨entries, hFind⟩
    exact ⟨_, hFind, rfl⟩

theorem hasFile_iff : t.hasFile p = true ↔ ∃ content, t.find? p = some (.file content) := by
  rw [hasFile, Option.any_eq_true]
  constructor
  · rintro ⟨u, hFind, hFile⟩
    cases u with
    | file content => exact ⟨content, hFind⟩
    | dir entries => exact absurd hFile Bool.false_ne_true
  · rintro ⟨content, hFind⟩
    exact ⟨_, hFind, rfl⟩

-- ---------------------------------------------------------------------------
-- Names below a path
-- ---------------------------------------------------------------------------

theorem names_cons (child parent : FileTree) (name : String) (above : List (String × FileTree)) :
    (Place.mk child ((name, parent) :: above)).names = (Place.mk parent above).names ++ [name] :=
  List.reverse_cons

/-- Names lead to what they are looked up to, and add to the names of the
place. -/
theorem foldlM_entryNames {ns : List String} (hns : ∀ n ∈ ns, IsEntryName n) (place : Place) :
    ((ns.map String.toList).foldlM Place.step place).map (fun q => (q.here, q.names)) =
      (at? ns place.here).map fun u => (u, place.names ++ ns) := by
  induction ns generalizing place with
  | nil => simp [at?]
  | cons n ns ih =>
    obtain ⟨hn, hRest⟩ := List.forall_mem_cons.1 hns
    rw [List.map_cons, List.foldlM_cons, step_entryName hn, at?]
    cases place.here.entries.lookup n with
    | none => rfl
    | some child =>
      have hNext := ih hRest ⟨child, (n, place.here) :: place.above⟩
      rw [names_cons] at hNext
      simpa using hNext

theorem map_here_follow?_descend {ns : List String} (hns : ∀ n ∈ ns, IsEntryName n)
    {above : List (String × FileTree)} (h : t.follow? p = some ⟨sub, above⟩) :
    (t.follow? (p.descend ns)).map (·.here) = at? ns sub := by
  have hNames := foldlM_entryNames hns ⟨sub, above⟩
  rw [follow?_descend t p fun n hn => (hns n hn).2.2.2, h]
  have hFirst := congrArg (Option.map Prod.fst) hNames
  rw [Option.map_map, Option.map_map] at hFirst
  simpa [Function.comp_def] using hFirst

/-- Below a path names lead to what they are looked up to, up to the length of
a path. -/
theorem find?_descend {ns : List String} (hns : ∀ n ∈ ns, IsEntryName n)
    (h : t.find? p = some sub) :
    t.find? (p.descend ns) =
      if (p.descend ns).text.utf8ByteSize ≤ maxPathBytes then at? ns sub else none := by
  obtain ⟨-, above, hFollow⟩ := find?_eq_some_iff.1 h
  rw [find?_eq, map_here_follow?_descend hns hFollow]

/-- Without `..` the way back does not matter. -/
theorem map_here_foldlM {ms : List (List Char)} (hms : ['.', '.'] ∉ ms)
    (above above' : List (String × FileTree)) :
    (ms.foldlM Place.step ⟨t, above⟩).map (·.here) =
      (ms.foldlM Place.step ⟨t, above'⟩).map (·.here) := by
  induction ms generalizing t above above' with
  | nil => rfl
  | cons m ms ih =>
    rw [List.mem_cons, not_or] at hms
    rw [List.foldlM_cons, List.foldlM_cons]
    cases t with
    | file content => rfl
    | dir entries =>
      by_cases hSilent : m = [] ∨ m = ['.']
      · rw [step_silent hSilent, step_silent hSilent]
        exact ih hms.2 above above'
      · rw [step_name hSilent (Ne.symm hms.1), step_name hSilent (Ne.symm hms.1)]
        cases entries.lookup (String.ofList m) with
        | none => rfl
        | some child => exact ih hms.2 _ _

-- ---------------------------------------------------------------------------
-- Detours
-- ---------------------------------------------------------------------------

/-- The names that lead into a directory and back, `n` times. -/
def detour (name : String) : Nat → List String
  | 0 => []
  | n + 1 => name :: ".." :: detour name n

theorem not_mem_detour {name : String} (hName : '/' ∉ name.toList) (n : Nat) :
    ∀ m ∈ detour name n, '/' ∉ m.toList := by
  induction n with
  | zero => exact fun m hm => absurd hm List.not_mem_nil
  | succ n ih =>
    rw [detour, List.forall_mem_cons, List.forall_mem_cons]
    exact ⟨hName, by decide, ih⟩

theorem namesSize_detour (name : String) (n more : Nat) :
    namesSize more (detour name n) = n * (name.utf8ByteSize + 2 + 2 * more) := by
  induction n with
  | zero => rw [Nat.zero_mul]; rfl
  | succ n ih =>
    have hUp : "..".utf8ByteSize = 2 := rfl
    rw [detour, namesSize, namesSize, ih, hUp, Nat.succ_mul n]
    omega

theorem foldlM_detour {entries inside : List (String × FileTree)} {name : String}
    (hName : IsEntryName name) (hLookup : entries.lookup name = some (.dir inside)) (n : Nat)
    (above : List (String × FileTree)) :
    ((detour name n).map String.toList).foldlM Place.step ⟨.dir entries, above⟩ =
      some ⟨.dir entries, above⟩ := by
  have hIn : (Place.mk (.dir entries) above).step name.toList =
      some ⟨.dir inside, (name, .dir entries) :: above⟩ := by
    rw [step_entryName hName, FileTree.entries, hLookup]
    rfl
  have hBack : (Place.mk (.dir inside) ((name, .dir entries) :: above)).step "..".toList =
      some ⟨.dir entries, above⟩ := rfl
  induction n with
  | zero => rfl
  | succ n ih =>
    rw [detour, List.map_cons, List.map_cons, List.foldlM_cons, hIn]
    show Option.bind (some _) _ = _
    rw [Option.bind_some, List.foldlM_cons, hBack]
    exact ih

/-- Detours lead nowhere else, but they make a path longer. -/
theorem follow?_detour {entries inside : List (String × FileTree)} {name : String}
    (hName : IsEntryName name) (hLookup : entries.lookup name = some (.dir inside)) (n : Nat)
    {names : List String} (hNames : ∀ m ∈ names, '/' ∉ m.toList) :
    (dir entries).follow? (descend ⟨"/"⟩ (detour name n ++ names)) =
      (dir entries).follow? (descend ⟨"/"⟩ names) := by
  have hSlash := List.forall_mem_append.2 ⟨not_mem_detour hName.2.2.2 n, hNames⟩
  have hTop : (dir entries).follow? ⟨"/"⟩ = some ⟨.dir entries, []⟩ := rfl
  rw [follow?_descend _ _ hSlash, follow?_descend _ _ hNames, hTop, Option.bind_some,
    Option.bind_some, List.map_append, List.foldlM_append, foldlM_detour hName hLookup]
  rfl

-- ---------------------------------------------------------------------------
-- The names of a place
-- ---------------------------------------------------------------------------

/-- The names of a place lead to it, and so do those of every directory above
it. -/
inductive Leads (t : FileTree) : Place → Prop
  | top : Leads t ⟨t, []⟩
  | down {parent child : FileTree} {above : List (String × FileTree)} {name : String}
      (up : Leads t ⟨parent, above⟩) (entry : parent.entries.lookup name = some child) :
      Leads t ⟨child, (name, parent) :: above⟩

theorem Leads.step {place next : Place} {m : List Char} (h : Leads t place)
    (hStep : place.step m = some next) : Leads t next := by
  obtain ⟨here, above⟩ := place
  cases here with
  | file content => exact absurd hStep (Option.some_ne_none _).symm
  | dir entries =>
    by_cases hSilent : m = [] ∨ m = ['.']
    · rw [step_silent hSilent, Option.some.injEq] at hStep
      exact hStep ▸ h
    by_cases hUp : m = ['.', '.']
    · subst hUp
      cases h with
      | top =>
        have hSame : Place.mk (.dir entries) [] = next := Option.some.inj hStep
        exact hSame ▸ .top
      | @down parent _ above name up entry =>
        have hParent : Place.mk parent above = next := Option.some.inj hStep
        exact hParent ▸ up
    · rw [step_name hSilent hUp, Option.map_eq_some_iff] at hStep
      obtain ⟨child, hLookup, rfl⟩ := hStep
      exact .down h hLookup

theorem Leads.at? {place : Place} (h : Leads t place) : at? place.names t = some place.here := by
  induction h with
  | top => rfl
  | @down parent child above name _ entry ih =>
    rw [names_cons, at?_append, ih, Option.bind_some, FileTree.at?, entry]
    rfl

/-- The names of the place that a path leads to lead there. -/
theorem at?_of_follow? {place : Place} (h : t.follow? p = some place) :
    at? place.names t = some place.here := by
  have hLeads : ∀ (ms : List (List Char)) {from' : Place}, Leads t from' →
      ms.foldlM Place.step from' = some place → Leads t place := by
    intro ms
    induction ms with
    | nil =>
      intro from' hFrom hSteps
      have hEq : from' = place := Option.some.inj hSteps
      exact hEq ▸ hFrom
    | cons m ms ih =>
      intro from' hFrom hSteps
      obtain ⟨next, hStep, hRest⟩ := Option.bind_eq_some_iff.1 hSteps
      exact ih (hFrom.step hStep) hRest
  exact (hLeads p.steps .top h).at?

/-- A path leads to well-formed trees only. -/
theorem WellFormed.find? (h : t.WellFormed) (hFind : t.find? p = some sub) : sub.WellFormed := by
  obtain ⟨-, above, hFollow⟩ := find?_eq_some_iff.1 hFind
  exact (h.at? (at?_of_follow? hFollow)).1

end SourceLint.FileTree
