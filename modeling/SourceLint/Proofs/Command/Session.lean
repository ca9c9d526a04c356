import SourceLint.Command.Run
import SourceLint.Proofs.FileTree.Create
import SourceLint.Proofs.Traverse

/-!
# Sessions — what runs leave behind

A session is a list of runs, each in a directory of the tree that the runs
before it have left. A run that does not ask for a config file leaves the tree
alone, and one that does leaves it alone if something has the name already
(`ends_run`). So after a session there are new config files in the tree and
nothing else is different (`session_adds`), and of the runs that ask for one in
the same directory only the first can succeed (`session_frame`).

Arguments that name `init` need not ask for a config file: they can be refused,
and they can ask for help. Such a run says so by its exit code and leaves the
tree alone like any other.

* `Invocation`, `steps`  — a session, run by run.
* `Adds`                 — config files are new, the rest is as it was.
* `ends_run`             — what a single run does to the tree.
* `session_frame`        — what a session does to the tree.
-/

namespace SourceLint.Command

open FileTree (entryAt?)

-- ---------------------------------------------------------------------------
-- Sessions
-- ---------------------------------------------------------------------------

/-- A run of the program: where, and with which arguments. -/
structure Invocation where
  directory : Path
  arguments : List String
  logSetting : Option String := none

namespace Invocation

/-- What comes of the run, and the tree that it leaves. -/
def run (i : Invocation) (tree : FileTree) : Result × FileTree :=
  execute ⟨tree, i.directory, i.logSetting⟩ i.arguments

/-- The run is asked to create a config file. -/
def asksInit (i : Invocation) : Bool :=
  match Request.parse i.arguments with
  | .ok (.run _ .init) => true
  | _ => false

/-- The run is asked for help or for the version. -/
def asksAbout (i : Invocation) : Bool :=
  match Request.parse i.arguments with
  | .ok (.help _) | .ok .version => true
  | _ => false

/-- The first argument that is no flag is `init`. -/
def namesInit (i : Invocation) : Bool :=
  i.arguments.find? (Shape.of · = .plain) = some "init"

/-- The names of the config file that the run would create, behind those of the
directory that it takes place in (`FileTree.place_of_follow?`). -/
def configPlace (i : Invocation) : List String :=
  i.directory.place ++ [Config.fileName]

/-- The run is asked to create a config file at the place. -/
def Asks (i : Invocation) (names : List String) : Prop :=
  i.asksInit = true ∧ names = i.configPlace

/-- The run takes place in a directory of the tree. -/
structure RunsIn (i : Invocation) (tree : FileTree) : Prop where
  absolute : i.directory.isAbsolute = true
  leads    : ∃ place, tree.follow? i.directory = some place ∧ place.here.isDirectory = true

end Invocation

/-- A run with the tree that it finds. -/
structure Step where
  invocation : Invocation
  before : FileTree

/-- What comes of the run. -/
def Step.result (s : Step) : Result :=
  (s.invocation.run s.before).1

/-- The tree that the run leaves. -/
def Step.after (s : Step) : FileTree :=
  (s.invocation.run s.before).2

/-- The runs, each with the tree that the runs before it leave. -/
def steps : FileTree → List Invocation → List Step
  | _, [] => []
  | tree, i :: is => ⟨i, tree⟩ :: steps (i.run tree).2 is

/-- The tree that the runs leave. -/
def treeAfter : FileTree → List Invocation → FileTree
  | tree, [] => tree
  | tree, i :: is => treeAfter (i.run tree).2 is

-- ---------------------------------------------------------------------------
-- New config files
-- ---------------------------------------------------------------------------

/-- The second tree has new config files where they are asked for and the first
has nothing. All else is in it as it is in the first. -/
structure Adds (asked : List String → Prop) (t u : FileTree) : Prop where
  new  : ∀ names, asked names → entryAt? names t = none →
    entryAt? names u = some (some Config.initialText.toUTF8)
  kept : ∀ names, ¬ (asked names ∧ entryAt? names t = none) → entryAt? names u = entryAt? names t

namespace Adds

variable {asked more : List String → Prop} {t u v : FileTree}

theorem refl (hAsked : ∀ names, asked names → entryAt? names t ≠ none) : Adds asked t t where
  new names hNames hNone := absurd hNone (hAsked names hNames)
  kept _ _ := rfl

/-- What is there stays. -/
theorem keeps (h : Adds asked t u) : FileTree.Keeps t u := by
  intro names entry hEntry
  rw [h.kept names fun hNew => Option.some_ne_none entry (hEntry.symm.trans hNew.2), hEntry]

/-- What is asked for is there afterwards. -/
theorem entryAt?_ne_none (h : Adds asked t u) {names : List String} (hNames : asked names) :
    entryAt? names u ≠ none := by
  by_cases hNone : entryAt? names t = none
  · rw [h.new names hNames hNone]
    exact Option.some_ne_none _
  · rwa [h.kept names fun hNew => hNone hNew.2]

theorem trans (h : Adds asked t u) (hMore : Adds more u v) :
    Adds (fun names => asked names ∨ more names) t v where
  new names hNames hNone := by
    by_cases hAsked : asked names
    · have hNew := h.new names hAsked hNone
      rw [hMore.kept names fun hBoth => h.entryAt?_ne_none hAsked hBoth.2, hNew]
    · have hSame := h.kept names fun hBoth => hAsked hBoth.1
      exact hMore.new names (hNames.resolve_left hAsked) (hSame.trans hNone)
  kept names hNot := by
    have hFirst := h.kept names fun hBoth => hNot ⟨Or.inl hBoth.1, hBoth.2⟩
    rw [hMore.kept names fun hBoth => hNot ⟨Or.inr hBoth.1, hFirst ▸ hBoth.2⟩, hFirst]

theorem congr (h : Adds asked t u) (hSame : ∀ names, more names ↔ asked names) :
    Adds more t u where
  new names hNames := h.new names ((hSame names).1 hNames)
  kept names hNot := h.kept names fun hBoth => hNot ⟨(hSame names).2 hBoth.1, hBoth.2⟩

end Adds

-- ---------------------------------------------------------------------------
-- Single runs
-- ---------------------------------------------------------------------------

variable {i : Invocation} {tree t u : FileTree} {is : List Invocation}

theorem created_runCheck (s : Surroundings) (path : Path) (rule : Option String)
    (config : Path) : (runCheck s path rule config).created = none := by
  rw [runCheck]
  split
  · rfl
  · dsimp only
    split <;> rfl

theorem created_runSymbols (knowledge : Knowledge) (header : Option String) :
    (runSymbols knowledge header).created = none := by
  cases header with
  | none => rfl
  | some header =>
    rw [runSymbols]
    split <;> rfl

/-- Only `init` creates a file. -/
theorem created_of_ne_init (s : Surroundings) {task : Task} (hTask : task ≠ .init) :
    (runTask s task).created = none := by
  cases task with
  | check path rule config => exact created_runCheck s path rule config
  | listRules => rfl
  | symbols header => exact created_runSymbols Knowledge.builtin header
  | init => exact absurd rfl hTask

/-- A run that is not asked to leaves the tree alone. -/
theorem run_of_not_asksInit (h : i.asksInit = false) (tree : FileTree) :
    (i.run tree).2 = tree := by
  rw [Invocation.asksInit] at h
  rw [Invocation.run, execute]
  cases hParse : Request.parse i.arguments with
  | error e => rfl
  | ok request =>
    cases request with
    | version => rfl
    | help topic => rfl
    | run flags task =>
      have hTask : task ≠ .init := by
        rintro rfl
        rw [hParse] at h
        exact absurd h.symm Bool.false_ne_true
      have hCreated := created_of_ne_init ⟨tree, i.directory, i.logSetting⟩ hTask
      dsimp only [Command.run, Result.treeAfter]
      rw [hCreated]

/-- Arguments that are refused are an error of use. -/
theorem exit_of_refused {e : UsageError} (h : Request.parse i.arguments = .error e)
    (tree : FileTree) : (i.run tree).1.exit = 2 := by
  rw [Invocation.run, execute, h]
  rfl

/-- Help and the version can always be given. -/
theorem exit_of_asksAbout (h : i.asksAbout = true) (tree : FileTree) :
    (i.run tree).1.exit = 0 := by
  rw [Invocation.asksAbout] at h
  rw [Invocation.run, execute]
  split at h
  case h_1 topic hParse => rw [hParse]; rfl
  case h_2 hParse => rw [hParse]; rfl
  case h_3 => cases h

theorem task_of_read {flags : Flags} {task : Task} {arguments : List String}
    (h : Subcommand.init.read arguments = .ok (flags, task)) : task = .init := by
  obtain ⟨g, -, hOk⟩ := exists_of_bind_eq_ok h
  cases hOk
  rfl

/-- Whatever flags stand in front, `init` stands for the task of that name. -/
theorem task_of_parseFrom {flags f : Flags} {task : Task} {arguments : List String}
    (hName : arguments.find? (Shape.of · = .plain) = some "init")
    (h : Request.parseFrom f arguments = .ok (flags, task)) : task = .init := by
  induction arguments generalizing f with
  | nil => cases hName
  | cons a rest ih =>
    rw [Request.parseFrom] at h
    rw [List.find?_cons] at hName
    cases hShape : Shape.of a with
    | plain =>
      simp only [hShape, decide_true, Option.some.injEq] at h hName
      subst hName
      have hInit : Subcommand.ofName? "init" = some .init := rfl
      rw [hInit] at h
      obtain ⟨⟨behind, task'⟩, hRead, hOk⟩ := exists_of_bind_eq_ok h
      cases hOk
      exact task_of_read hRead
    | short letters =>
      simp only [hShape, reduceCtorEq, decide_false] at h hName
      obtain ⟨f', -, hRest⟩ := exists_of_bind_eq_ok h
      exact ih hName hRest
    | long name value =>
      simp only [hShape, reduceCtorEq, decide_false] at h hName
      cases value with
      | some value => cases h
      | none =>
        cases hSwitch : Switch.ofName? name with
        | none => simp only [hSwitch] at h; cases h
        | some s =>
          simp only [hSwitch] at h
          obtain ⟨f', -, hRest⟩ := exists_of_bind_eq_ok h
          exact ih hName hRest
    | divider =>
      simp only [hShape] at h
      cases h

/-- A run that names `init` and is neither refused nor asked for help is asked
to create a config file. -/
theorem asksInit_of_namesInit (h : i.namesInit = true) :
    i.asksInit = true ∨ i.asksAbout = true ∨ ∃ e, Request.parse i.arguments = .error e := by
  have hName := of_decide_eq_true h
  rw [Invocation.asksInit, Invocation.asksAbout, Request.parse]
  cases hParse : Request.parseFrom {} i.arguments with
  | ok pair =>
    obtain ⟨flags, task⟩ := pair
    rw [task_of_parseFrom hName hParse]
    exact Or.inl rfl
  | error stop =>
    cases stop with
    | refused e => exact Or.inr (Or.inr ⟨e, rfl⟩)
    | version => exact Or.inr (Or.inl rfl)
    | help topic => exact Or.inr (Or.inl rfl)

theorem isEntryName_fileName : FileTree.IsEntryName Config.fileName := by
  decide

/-- Where the config file of a run is, seen from the top and from the directory
of the run. -/
theorem findIn?_fileName (h : i.RunsIn tree) :
    ∃ inside, FileTree.at? i.directory.place tree = some (.dir inside) ∧
      tree.findIn? i.directory ⟨Config.fileName⟩ = inside.lookup Config.fileName := by
  obtain ⟨hAbsolute, ⟨here, above⟩, hFollow, hDir⟩ := h
  cases here with
  | file content => exact absurd hDir Bool.false_ne_true
  | dir inside =>
    refine ⟨inside, ?_, ?_⟩
    · rw [FileTree.place_of_follow? hAbsolute hFollow]
      exact FileTree.at?_of_follow? hFollow
    · have hShort : Config.fileName.utf8ByteSize ≤ FileTree.maxPathBytes := by decide
      have hChild := FileTree.follow?_child tree i.directory isEntryName_fileName.2.2.2
      rw [Path.child, hFollow, Option.bind_some, FileTree.step_entryName isEntryName_fileName]
        at hChild
      rw [FileTree.findIn?, FileTree.placeIn?, if_pos hShort, hChild, Option.map_map]
      exact congrFun Option.map_id_fun' (inside.lookup Config.fileName)

/-- The three ways in which a run can go: it is not asked to create a config
file, or something has the name already, or the file is created. -/
inductive Ends (i : Invocation) (tree : FileTree) : Result × FileTree → Prop
  | aside {result : Result} (asked : i.asksInit = false) : Ends i tree (result, tree)
  | refused {result : Result} (asked : i.asksInit = true)
      (taken : entryAt? i.configPlace tree ≠ none) (exit : result.exit = 1) :
      Ends i tree (result, tree)
  | created {result : Result} (asked : i.asksInit = true)
      (free : entryAt? i.configPlace tree = none) (exit : result.exit = 0) :
      Ends i tree (result, tree.write Config.initialText.toUTF8 i.configPlace)

theorem exists_parse_of_asksInit (h : i.asksInit = true) :
    ∃ flags, Request.parse i.arguments = .ok (.run flags .init) := by
  rw [Invocation.asksInit] at h
  split at h
  case h_1 flags hParse => exact ⟨flags, hParse⟩
  case h_2 => cases h

theorem ends_run (h : i.RunsIn tree) : Ends i tree (i.run tree) := by
  cases hAsked : i.asksInit with
  | false =>
    have hSame : i.run tree = ((i.run tree).1, tree) :=
      Prod.ext rfl (run_of_not_asksInit hAsked tree)
    rw [hSame]
    exact .aside hAsked
  | true =>
    obtain ⟨inside, hDir, hFind⟩ := findIn?_fileName h
    have hEntry : entryAt? i.configPlace tree =
        (inside.lookup Config.fileName).map FileTree.content? := by
      rw [entryAt?, Invocation.configPlace, FileTree.at?_append_one, hDir]
      rfl
    obtain ⟨flags, hParse⟩ := exists_parse_of_asksInit hAsked
    have hRun : i.run tree =
        (run ⟨tree, i.directory, i.logSetting⟩ (.run flags .init),
          (run ⟨tree, i.directory, i.logSetting⟩ (.run flags .init)).treeAfter tree) := by
      rw [Invocation.run, execute, hParse]
    rw [hRun, run, runTask, runInit]
    cases hLookup : inside.lookup Config.fileName with
    | some child =>
      rw [hLookup] at hFind hEntry
      have hTaken : (tree.findIn? i.directory ⟨Config.fileName⟩).isSome = true := by
        rw [hFind]
        rfl
      rw [if_pos hTaken]
      exact .refused hAsked (by rw [hEntry]; exact Option.some_ne_none _) rfl
    | none =>
      rw [hLookup] at hFind hEntry
      have hFree : ¬ (tree.findIn? i.directory ⟨Config.fileName⟩).isSome = true := by
        rw [hFind]
        exact Bool.false_ne_true
      have hPlace : (i.directory.child Config.fileName).place = i.configPlace :=
        FileTree.place_child h.absolute isEntryName_fileName
      rw [if_neg hFree, Result.treeAfter]
      dsimp only
      rw [hPlace]
      exact .created hAsked hEntry rfl

/-- What is new after a run is the config file that was asked for. -/
theorem adds_run (h : i.RunsIn tree) : Adds i.Asks tree (i.run tree).2 := by
  have hEnds := ends_run h
  obtain ⟨inside, hDir, -⟩ := findIn?_fileName h
  generalize i.run tree = outcome at hEnds ⊢
  cases hEnds with
  | aside asked =>
    refine .refl fun names hAsks => ?_
    exact absurd (asked.symm.trans hAsks.1) Bool.false_ne_true
  | refused asked taken exit =>
    refine .refl fun names hAsks => ?_
    rw [hAsks.2]
    exact taken
  | created asked free exit =>
    have hNew : inside.lookup Config.fileName = none := by
      have hNone := FileTree.entryAt?_eq_none_iff.1 free
      rwa [Invocation.configPlace, FileTree.at?_append_one, hDir] at hNone
    have hEntry := FileTree.entryAt?_create hDir hNew Config.initialText.toUTF8
    refine ⟨fun names hAsks _ => ?_, fun names hNot => ?_⟩
    · rw [hAsks.2]
      exact (hEntry _).trans (if_pos rfl)
    · refine (hEntry names).trans (if_neg ?_)
      rintro rfl
      exact hNot ⟨⟨asked, rfl⟩, free⟩

theorem wellFormed_run (h : i.RunsIn tree) (hTree : tree.WellFormed) :
    (i.run tree).2.WellFormed := by
  have hEnds := ends_run h
  obtain ⟨inside, hDir, -⟩ := findIn?_fileName h
  generalize i.run tree = outcome at hEnds ⊢
  cases hEnds with
  | aside => exact hTree
  | refused => exact hTree
  | created => exact hTree.create hDir isEntryName_fileName _

/-- A directory stays where it is while entries are kept. -/
theorem Invocation.RunsIn.of_keeps (h : i.RunsIn t) (hKeeps : FileTree.Keeps t u) :
    i.RunsIn u := by
  obtain ⟨hAbsolute, place, hFollow, hDir⟩ := h
  obtain ⟨place', hFollow', -, hContent⟩ := FileTree.follow?_of_keeps hKeeps hFollow
  refine ⟨hAbsolute, place', hFollow', ?_⟩
  rwa [FileTree.isDirectory_iff, hContent, ← FileTree.isDirectory_iff]

-- ---------------------------------------------------------------------------
-- Sessions run by run
-- ---------------------------------------------------------------------------

/-- Every run finds its directory, although other runs come before it. -/
theorem forall_runsIn_run (hDirs : ∀ j ∈ i :: is, j.RunsIn tree) :
    ∀ j ∈ is, j.RunsIn (i.run tree).2 := by
  obtain ⟨hFirst, hRest⟩ := List.forall_mem_cons.1 hDirs
  exact fun j hj => (hRest j hj).of_keeps (adds_run hFirst).keeps

/-- **After a session the config files that were asked for are new**, and
nothing else is different. -/
theorem session_adds (hDirs : ∀ i ∈ is, i.RunsIn tree) :
    Adds (fun names => ∃ i ∈ is, i.Asks names) tree (treeAfter tree is) := by
  induction is generalizing tree with
  | nil =>
    refine .refl fun names hAsked => ?_
    obtain ⟨i, hi, -⟩ := hAsked
    exact absurd hi List.not_mem_nil
  | cons i is ih =>
    have hFirst := adds_run (List.forall_mem_cons.1 hDirs).1
    refine (hFirst.trans (ih (forall_runsIn_run hDirs))).congr fun names => ?_
    exact List.exists_mem_cons_iff ..

theorem wellFormed_treeAfter (hDirs : ∀ i ∈ is, i.RunsIn tree) (hTree : tree.WellFormed) :
    (treeAfter tree is).WellFormed := by
  induction is generalizing tree with
  | nil => exact hTree
  | cons i is ih =>
    exact ih (forall_runsIn_run hDirs) (wellFormed_run (List.forall_mem_cons.1 hDirs).1 hTree)

/-- Whatever a run of a session finds, it finds all that was there at first,
and its directory. -/
theorem keeps_before (hDirs : ∀ i ∈ is, i.RunsIn tree) {s : Step} (hs : s ∈ steps tree is) :
    FileTree.Keeps tree s.before ∧ s.invocation.RunsIn s.before := by
  induction is generalizing tree with
  | nil => exact absurd hs List.not_mem_nil
  | cons i is ih =>
    have hFirst := (List.forall_mem_cons.1 hDirs).1
    rcases List.mem_cons.1 hs with rfl | hs
    · exact ⟨fun _ _ hEntry => hEntry, hFirst⟩
    · obtain ⟨hKeeps, hRuns⟩ := ih (forall_runsIn_run hDirs) hs
      exact ⟨fun names entry hEntry => hKeeps _ _ ((adds_run hFirst).keeps _ _ hEntry), hRuns⟩

/-- A config file that is asked for is created, or the run is refused and
changes nothing. -/
theorem result_of_asksInit {s : Step} (hRuns : s.invocation.RunsIn s.before)
    (hAsked : s.invocation.asksInit = true) :
    s.result.exit = 0 ∧ entryAt? s.invocation.configPlace s.before = none ∨
      s.result.exit = 1 ∧ s.after = s.before := by
  have hEnds := ends_run hRuns
  rw [Step.result, Step.after]
  generalize s.invocation.run s.before = outcome at hEnds ⊢
  cases hEnds with
  | aside asked => exact absurd (asked.symm.trans hAsked) Bool.false_ne_true
  | refused _ _ exit => exact Or.inr ⟨exit, rfl⟩
  | created _ free exit => exact Or.inl ⟨exit, free⟩

/-- Of the runs that ask for the same config file, all but the first are
refused. -/
theorem pairwise_refused (hDirs : ∀ i ∈ is, i.RunsIn tree) :
    (steps tree is).Pairwise fun s later =>
      s.invocation.asksInit = true → later.invocation.asksInit = true →
        later.invocation.configPlace = s.invocation.configPlace →
          later.result.exit = 1 ∧ later.after = later.before := by
  induction is generalizing tree with
  | nil => exact .nil
  | cons i is ih =>
    have hRest := forall_runsIn_run hDirs
    refine List.pairwise_cons.2 ⟨fun later hLater hAsks hAsksLater hSame => ?_, ih hRest⟩
    obtain ⟨hKeeps, hRuns⟩ := keeps_before hRest hLater
    -- the first of the two runs has left a file or has found an entry
    have hTaken := (adds_run (List.forall_mem_cons.1 hDirs).1).entryAt?_ne_none ⟨hAsks, rfl⟩
    obtain ⟨entry, hEntry⟩ := Option.ne_none_iff_exists'.1 hTaken
    have hStill : entryAt? later.invocation.configPlace later.before = some entry := by
      rw [hSame, hKeeps _ _ hEntry]
    refine (result_of_asksInit hRuns hAsksLater).resolve_left fun hCreated => ?_
    exact Option.some_ne_none entry (hStill.symm.trans hCreated.2)

/-- **What a session leaves behind**: config files that were asked for where
there was nothing, and no other change. A run that is not asked for one changes
nothing, and of the runs that are, one in each directory can succeed; the
others say so by their exit code and change nothing. A run that names `init`
without asking for a config file is refused, or it is asked for help. -/
theorem session_frame (tree : FileTree) (is : List Invocation)
    (hDirs : ∀ i ∈ is, i.RunsIn tree) :
    Adds (fun names => ∃ i ∈ is, i.Asks names) tree (treeAfter tree is) ∧
      (tree.WellFormed → (treeAfter tree is).WellFormed) ∧
      (∀ s ∈ steps tree is,
        (s.invocation.asksInit = false → s.after = s.before) ∧
        (s.invocation.asksInit = true →
          s.result.exit = 0 ∧ entryAt? s.invocation.configPlace s.before = none ∨
            s.result.exit = 1 ∧ s.after = s.before) ∧
        (∀ e, Request.parse s.invocation.arguments = .error e → s.result.exit = 2) ∧
        (s.invocation.asksAbout = true → s.result.exit = 0) ∧
        (s.invocation.namesInit = true → s.invocation.asksInit = true ∨
          s.invocation.asksAbout = true ∨
            ∃ e, Request.parse s.invocation.arguments = .error e)) ∧
      (steps tree is).Pairwise fun s later =>
        s.invocation.asksInit = true → later.invocation.asksInit = true →
          later.invocation.configPlace = s.invocation.configPlace →
            later.result.exit = 1 ∧ later.after = later.before := by
  refine ⟨session_adds hDirs, wellFormed_treeAfter hDirs, fun s hs => ?_, pairwise_refused hDirs⟩
  have hRuns := (keeps_before hDirs hs).2
  refine ⟨fun hAside => ?_, fun hAsked => ?_, fun e hRefused => ?_, fun hAbout => ?_, ?_⟩
  · exact run_of_not_asksInit hAside s.before
  · exact result_of_asksInit hRuns hAsked
  · exact exit_of_refused hRefused s.before
  · exact exit_of_asksAbout hAbout s.before
  · exact asksInit_of_namesInit

/-- A tree with one empty directory. -/
def workTree : FileTree :=
  .dir [("w", .dir [])]

/-- A run in that directory. -/
def inWork (arguments : List String) : Invocation :=
  ⟨⟨"/w"⟩, arguments, none⟩

theorem runsIn_workTree (arguments : List String) : (inWork arguments).RunsIn workTree := by
  have hDir : (workTree.follow? ⟨"/w"⟩).any (·.here.isDirectory) = true := by decide +kernel
  have hAbsolute : (⟨"/w"⟩ : Path).isAbsolute = true := by decide
  exact ⟨hAbsolute, (Option.any_eq_true ..).1 hDir⟩

/-- The second of two requests is refused, whatever is run between them. -/
theorem session_frame_workTree :
    (steps workTree [inWork ["init"], inWork ["list-rules"], inWork ["init"]]).map
        (·.result.exit) = [0, 0, 1] ∧
      entryAt? ["w", "srccheck.toml"]
          (treeAfter workTree [inWork ["init"], inWork ["list-rules"], inWork ["init"]]) =
        some (some Config.initialText.toUTF8) := by
  have hDirs : ∀ i ∈ [inWork ["init"], inWork ["list-rules"], inWork ["init"]],
      i.RunsIn workTree := by
    simp only [List.forall_mem_cons]
    exact ⟨runsIn_workTree _, runsIn_workTree _, runsIn_workTree _, by simp⟩
  obtain ⟨hAdds, -⟩ := session_frame workTree _ hDirs
  refine ⟨by decide +kernel, hAdds.new _ ⟨inWork ["init"], List.mem_cons_self .., ?_⟩ rfl⟩
  exact ⟨by decide +kernel, by decide +kernel⟩

/-- An argument too many is an error of use, so not every run that names `init`
ends with the exit code of one that succeeds or of one that finds the name
taken. And help is given behind `init` as well, so the second of two such runs
need not fail. -/
theorem exit_init_argument :
    (¬ ∀ s ∈ steps workTree [inWork ["init"], inWork ["init", "x"]],
      s.invocation.namesInit = true → s.result.exit = 0 ∨ s.result.exit = 1) ∧
    ¬ (steps workTree [inWork ["init"], inWork ["init", "--help"]]).Pairwise fun s later =>
      s.invocation.namesInit = true → later.invocation.namesInit = true →
        later.invocation.configPlace = s.invocation.configPlace → later.result.exit = 1 := by
  constructor
  · intro hExits
    have hSecond := hExits _ (List.mem_cons_of_mem _ (List.mem_cons_self ..)) (by decide +kernel)
    exact absurd hSecond (by decide +kernel)
  · intro hExits
    have hFails := List.rel_of_pairwise_cons hExits (List.mem_cons_self ..)
    exact absurd (hFails (by decide +kernel) (by decide +kernel) rfl) (by decide +kernel)

end SourceLint.Command
