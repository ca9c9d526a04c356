import SourceLint.Proofs.FileTree.Names
import SourceLint.Proofs.FileTree.Outline

/-!
# File trees — creating a file

A tree is seen through the entries that names lead to: a directory, or a file
with its bytes. A file that is written under a new name in a directory adds one
entry and changes no other (`entryAt?_create`), and the tree stays well-formed
(`WellFormed.create`). Where nothing is taken away, paths lead to the same
places as before (`follow?_of_keeps`).

The place of an absolute path, which is read off its components, is the place
that the path leads to (`place_of_follow?`).

* `entryAt?`          — what is seen of a tree.
* `entryAt?_create`   — a new file is one new entry.
* `follow?_of_keeps`  — places stay where they are.
-/

namespace SourceLint.FileTree

variable {t u child : FileTree} {p : Path} {name : String} {names directory : List String}
  {entries inside : List (String × FileTree)} {b : ByteArray}

-- ---------------------------------------------------------------------------
-- What is seen of a tree
-- ---------------------------------------------------------------------------

/-- What names lead to: nothing, a directory (`some none`), or a file with its
bytes. -/
def entryAt? (names : List String) (t : FileTree) : Option (Option ByteArray) :=
  (at? names t).map content?

theorem isDirectory_iff : t.isDirectory = true ↔ t.content? = none := by
  cases t with
  | file content => exact iff_of_false Bool.false_ne_true (Option.some_ne_none _)
  | dir entries => exact iff_of_true rfl rfl

theorem entryAt?_eq_none_iff : entryAt? names t = none ↔ at? names t = none :=
  Option.map_eq_none_iff

theorem at?_append_one (directory : List String) (name : String) (t : FileTree) :
    at? (directory ++ [name]) t = (at? directory t).bind (·.entries.lookup name) := by
  rw [at?_append]
  congr 1
  funext u
  rw [at?]
  exact Option.bind_fun_some _

-- ---------------------------------------------------------------------------
-- A new file
-- ---------------------------------------------------------------------------

/-- **A new file is one new entry**; all else stays. -/
theorem entryAt?_create (hDir : at? directory t = some (.dir inside))
    (hNew : inside.lookup name = none) (b : ByteArray) (names : List String) :
    entryAt? names (t.write b (directory ++ [name])) =
      if names = directory ++ [name] then some (some b) else entryAt? names t := by
  induction directory generalizing t names with
  | nil =>
    cases hDir
    rw [List.nil_append, write_cons]
    cases names with
    | nil => rfl
    | cons other others =>
      rw [entryAt?, entryAt?, at?, at?, FileTree.entries, FileTree.entries, lookup_setEntry]
      by_cases hSame : other = name
      · subst hSame
        rw [if_pos rfl, hNew]
        -- a file has nothing below it
        cases others with
        | nil =>
          rw [if_pos rfl]
          rfl
        | cons =>
          rw [if_neg (by simp)]
          rfl
      · simp [hSame]
  | cons d ds ih =>
    obtain ⟨child, hLookup, hRest⟩ := Option.bind_eq_some_iff.1 hDir
    cases t with
    | file content => exact absurd hLookup (Option.some_ne_none _).symm
    | dir entries =>
      rw [FileTree.entries] at hLookup
      rw [List.cons_append, write_cons, hLookup, Option.getD_some]
      cases names with
      | nil => rfl
      | cons other others =>
        have hBelow := ih hRest others
        rw [entryAt?, entryAt?] at hBelow
        rw [entryAt?, entryAt?, at?, at?, FileTree.entries, FileTree.entries, lookup_setEntry]
        by_cases hSame : other = d
        · subst hSame
          rw [if_pos rfl, hLookup, Option.bind_some, Option.bind_some, hBelow]
          simp
        · simp [hSame]

theorem mem_setEntry {e : String × FileTree} (h : e ∈ setEntry name t entries) :
    e = (name, t) ∨ e ∈ entries := by
  induction entries with
  | nil => exact Or.inl (List.mem_singleton.1 h)
  | cons first rest ih =>
    obtain ⟨n, v⟩ := first
    rw [setEntry] at h
    split at h
    · rcases List.mem_cons.1 h with rfl | hRest
      · exact Or.inr (List.mem_cons_self ..)
      · exact (ih hRest).imp_right (List.mem_cons_of_mem _)
    · split at h
      · exact (List.mem_cons.1 h).imp_right (List.mem_cons_of_mem _)
      · exact List.mem_cons.1 h

/-- Entries stay in order when one is set. -/
theorem setEntry_increasing (h : (entries.map Prod.fst).Pairwise (· < ·)) :
    ((setEntry name t entries).map Prod.fst).Pairwise (· < ·) := by
  induction entries with
  | nil => exact List.pairwise_singleton _ _
  | cons first rest ih =>
    obtain ⟨n, v⟩ := first
    obtain ⟨hFirst, hRest⟩ := List.pairwise_cons.1 h
    rw [setEntry]
    split
    case isTrue hLess =>
      refine List.pairwise_cons.2 ⟨fun k hk => ?_, ih hRest⟩
      obtain ⟨e, he, rfl⟩ := List.mem_map.1 hk
      rcases mem_setEntry he with rfl | he
      · exact hLess
      · exact hFirst e.1 (List.mem_map_of_mem he)
    case isFalse hLess =>
      split
      case isTrue hSame => exact hSame ▸ h
      case isFalse hNe =>
        have hBefore : name < n := Std.lt_of_le_of_ne (String.not_lt.1 hLess) (Ne.symm hNe)
        refine List.pairwise_cons.2 ⟨fun k hk => ?_, h⟩
        rcases List.mem_cons.1 hk with rfl | hk
        · exact hBefore
        · exact String.lt_trans hBefore (hFirst k hk)

theorem WellFormed.setEntry (h : (dir entries).WellFormed) (hName : IsEntryName name)
    (hChild : child.WellFormed) : (dir (setEntry name child entries)).WellFormed := by
  refine wellFormed_dir_iff.2 ⟨setEntry_increasing h.names_increase, fun e he => ?_⟩
  rcases mem_setEntry he with rfl | he
  · exact ⟨hName, hChild⟩
  · exact ⟨h.isEntryName he, h.entry he⟩

theorem wellFormed_file (b : ByteArray) : (file b).WellFormed :=
  ⟨trivial, .file b⟩

/-- A well-formed tree stays so when a file is written into a directory. -/
theorem WellFormed.create (h : t.WellFormed) (hDir : FileTree.at? directory t = some (.dir inside))
    (hName : IsEntryName name) (b : ByteArray) :
    (t.write b (directory ++ [name])).WellFormed := by
  induction directory generalizing t with
  | nil =>
    cases hDir
    exact h.setEntry hName (wellFormed_file b)
  | cons d ds ih =>
    obtain ⟨child, hLookup, hRest⟩ := Option.bind_eq_some_iff.1 hDir
    cases t with
    | file content => exact absurd hLookup (Option.some_ne_none _).symm
    | dir entries =>
      rw [FileTree.entries] at hLookup
      have hMem := (lookup_eq_some_iff h.names_nodup).1 hLookup
      rw [List.cons_append, write_cons, hLookup, Option.getD_some]
      exact h.setEntry (h.isEntryName hMem) (ih (h.entry hMem) hRest)

-- ---------------------------------------------------------------------------
-- The place of a path
-- ---------------------------------------------------------------------------

/-- A step changes the names of a place as its component says. -/
theorem names_step {place next : Place} {m : List Char} (hStep : place.step m = some next) :
    next.names = match Path.stepComponent? m with
      | none => place.names
      | some c => c.follow place.names := by
  obtain ⟨here, above⟩ := place
  cases here with
  | file content => exact absurd hStep (Option.some_ne_none _).symm
  | dir entries =>
    by_cases hSilent : m = [] ∨ m = ['.']
    · rw [step_silent hSilent, Option.some.injEq] at hStep
      rw [Path.stepComponent?_eq_none_iff.2 hSilent, hStep]
    by_cases hUp : m = ['.', '.']
    · subst hUp
      have hComponent : Path.stepComponent? ['.', '.'] = some .up := rfl
      rw [hComponent]
      dsimp only
      rw [Path.Component.follow]
      cases above with
      | nil =>
        cases hStep
        rfl
      | cons first above =>
        obtain ⟨n, parent⟩ := first
        cases hStep
        rw [names_cons, List.dropLast_concat]
    · have hComponent : Path.stepComponent? m = some (.name (String.ofList m)) := by
        rw [Path.stepComponent?, Path.innerPiece, if_neg hSilent, if_neg hUp]
      rw [step_name hSilent hUp, Option.map_eq_some_iff] at hStep
      obtain ⟨child, -, rfl⟩ := hStep
      rw [hComponent]
      exact names_cons ..

/-- **The place of an absolute path** is the place that it leads to. -/
theorem place_of_follow? (hp : p.isAbsolute = true) {place : Place}
    (hFollow : t.follow? p = some place) : p.place = place.names := by
  have hSteps : ∀ (ms : List (List Char)) {start : Place},
      ms.foldlM Place.step start = some place →
        (ms.filterMap Path.stepComponent?).foldl Path.Component.follow start.names =
          place.names := by
    intro ms
    induction ms with
    | nil =>
      intro start hFold
      cases hFold
      rfl
    | cons m ms ih =>
      intro start hFold
      obtain ⟨next, hStep, hRest⟩ := Option.bind_eq_some_iff.1 hFold
      have hNames := names_step hStep
      rw [← ih hRest, hNames, List.filterMap_cons]
      cases Path.stepComponent? m <;> rfl
  rw [Path.place, Path.components_of_isAbsolute hp, List.foldl_cons]
  exact hSteps p.steps hFollow

theorem place_child (hp : p.isAbsolute = true) (hName : IsEntryName name) :
    (p.child name).place = p.place ++ [name] := by
  rw [Path.place, Path.place, Path.components_child (Path.text_ne_of_isAbsolute hp) hName.2.2.2,
    stepComponent?_entryName hName, Option.toList_some, List.foldl_append]
  rfl

-- ---------------------------------------------------------------------------
-- Trees that keep their entries
-- ---------------------------------------------------------------------------

/-- Every entry of the first tree is one of the second. -/
def Keeps (t u : FileTree) : Prop :=
  ∀ names entry, entryAt? names t = some entry → entryAt? names u = some entry

/-- What stands at the names of a place. -/
theorem Leads.entryAt? {place : Place} (h : Leads t place) :
    entryAt? place.names t = some place.here.content? := by
  rw [FileTree.entryAt?, h.at?, Option.map_some]

theorem Keeps.here {place place' : Place} (h : Keeps t u) (hPlace : Leads t place)
    (hPlace' : Leads u place') (hNames : place'.names = place.names) :
    place'.here.content? = place.here.content? := by
  have hThere := h _ _ hPlace.entryAt?
  rw [← hNames, hPlace'.entryAt?] at hThere
  exact Option.some.inj hThere

theorem Keeps.step {place place' next : Place} {m : List Char} (h : Keeps t u)
    (hPlace : Leads t place) (hPlace' : Leads u place') (hNames : place'.names = place.names)
    (hStep : place.step m = some next) :
    ∃ next', place'.step m = some next' ∧ next'.names = next.names := by
  have hNext := hPlace.step hStep
  have hHere := h.here hPlace hPlace' hNames
  obtain ⟨here, above⟩ := place
  obtain ⟨here', above'⟩ := place'
  cases here with
  | file content => exact absurd hStep (Option.some_ne_none _).symm
  | dir entries =>
    cases here' with
    | file content => exact absurd hHere (Option.some_ne_none _)
    | dir entries' =>
      have hStepNames := names_step hStep
      by_cases hSilent : m = [] ∨ m = ['.']
      · exact ⟨_, step_silent hSilent, by
          rw [hStepNames, Path.stepComponent?_eq_none_iff.2 hSilent, hNames]⟩
      by_cases hUp : m = ['.', '.']
      · subst hUp
        obtain ⟨next', hStep'⟩ : ∃ next', (Place.mk (.dir entries') above').step ['.', '.'] =
            some next' := by
          cases above' with
          | nil => exact ⟨_, rfl⟩
          | cons first above' => exact ⟨_, rfl⟩
        exact ⟨next', hStep', by rw [names_step hStep', hStepNames, hNames]⟩
      · -- the entry that the step leads to is kept
        have hEntry := h _ _ hNext.entryAt?
        rw [step_name hSilent hUp, Option.map_eq_some_iff] at hStep
        obtain ⟨child, -, rfl⟩ := hStep
        rw [names_cons, FileTree.entryAt?, at?_append_one] at hEntry
        rw [show (Place.mk (dir entries) above).names = (Place.mk (dir entries') above').names
          from hNames.symm, hPlace'.at?, Option.bind_some, Option.map_eq_some_iff] at hEntry
        obtain ⟨child', hLookup, -⟩ := hEntry
        refine ⟨⟨child', (String.ofList m, .dir entries') :: above'⟩, ?_, ?_⟩
        · rw [step_name hSilent hUp]
          exact congrArg (Option.map _) hLookup
        · rw [names_cons, names_cons, hNames]

/-- **Where entries are kept, paths lead to the same places.** -/
theorem follow?_of_keeps (h : Keeps t u) {place : Place} (hFollow : t.follow? p = some place) :
    ∃ place', u.follow? p = some place' ∧ place'.names = place.names ∧
      place'.here.content? = place.here.content? := by
  have hSteps : ∀ (ms : List (List Char)) {start start' : Place}, Leads t start → Leads u start' →
      start'.names = start.names → ms.foldlM Place.step start = some place →
        ∃ place', ms.foldlM Place.step start' = some place' ∧ place'.names = place.names ∧
          place'.here.content? = place.here.content? := by
    intro ms
    induction ms with
    | nil =>
      intro start start' hStart hStart' hNames hFold
      cases hFold
      exact ⟨start', rfl, hNames, h.here hStart hStart' hNames⟩
    | cons m ms ih =>
      intro start start' hStart hStart' hNames hFold
      obtain ⟨next, hStep, hRest⟩ := Option.bind_eq_some_iff.1 hFold
      obtain ⟨next', hStep', hNext⟩ := h.step hStart hStart' hNames hStep
      obtain ⟨place', hFold', hPlace'⟩ :=
        ih (hStart.step hStep) (hStart'.step hStep') hNext hRest
      refine ⟨place', ?_, hPlace'⟩
      rw [List.foldlM_cons, hStep']
      exact hFold'
  exact hSteps p.steps .top .top rfl hFollow

end SourceLint.FileTree
