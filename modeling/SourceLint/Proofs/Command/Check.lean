import SourceLint.Command.Run
import SourceLint.Proofs.Analysis.Severity
import SourceLint.Proofs.FileTree.Spelling
import SourceLint.Proofs.Rule.Message
import SourceLint.Proofs.Text.Lines

/-!
# The check command — what it shows and how it ends

A check needs settings and an analysis. Where one of them fails, one line on
the error stream says why. Otherwise every violation is one line: its path is
made of names of the tree and its message has no line break, so a tree without
line breaks in its names gives as many lines as violations
(`shows_reportResult`). The counts under them are counts of these lines, and
the exit code depends on the first of them (`execute_check`).

* `HasSettings`         — the settings that a config path stands for.
* `render_of_mem_run`   — a violation is a line.
* `shows_reportResult`  — what is shown of a report.
* `execute_check`       — the whole command.
-/

namespace SourceLint

-- ---------------------------------------------------------------------------
-- Counts
-- ---------------------------------------------------------------------------

theorem Report.sum_counts (report : Report) :
    report.count .error + report.count .warning + report.count .info =
      report.violations.length := by
  rw [count, count, count]
  induction report.violations with
  | nil => rfl
  | cons v vs ih =>
    rw [List.countP_cons, List.countP_cons, List.countP_cons, List.length_cons, ← ih]
    cases v.severity <;> simp <;> omega

theorem Report.outcome_eq_success_iff {report : Report} :
    report.outcome = .success ↔ ∀ v ∈ report.violations, v.severity ≠ .error := by
  have hFail : report.outcome = .success ↔ ¬ report.outcome = .fail := by
    cases report.outcome <;> decide
  rw [hFail, outcome_eq_fail_iff]
  push Not
  rfl

theorem Report.count_error_eq_zero_iff {report : Report} :
    report.count .error = 0 ↔ report.outcome = .success := by
  rw [outcome_eq_success_iff, count, List.countP_eq_zero]
  simp only [decide_eq_true_eq]

-- ---------------------------------------------------------------------------
-- Lines that are printed
-- ---------------------------------------------------------------------------

namespace Command

theorem toList_unlines (ls : List String) :
    (unlines ls).toList = Text.terminated (ls.map String.toList) := by
  rw [unlines, String.toList_join, Text.terminated, List.flatMap_map, List.flatMap_map]
  apply List.flatMap_congr
  intro l _
  rw [line, String.toList_append]
  rfl

/-- Printed lines are read as they are, if none of them has a line break in it
or the beginning of one at its end. -/
theorem lines_unlines {ls : List String}
    (h : ∀ l ∈ ls, '\n' ∉ l.toList ∧ l.toList.getLast? ≠ some '\r') :
    Text.lines (unlines ls).toList = ls.map String.toList := by
  rw [toList_unlines, Text.lines_terminated_eq]
  intro l hl
  obtain ⟨s, hs, rfl⟩ := List.mem_map.1 hl
  exact h s hs

end Command

-- ---------------------------------------------------------------------------
-- Violations as lines
-- ---------------------------------------------------------------------------

namespace Analysis

variable {a : Analysis} {tree : FileTree} {report : Report} {v : Violation}

/-- A violation is about a file of the tree, and has a message of one line. -/
theorem spelling_of_mem_run (hRun : a.run tree = .ok report) (hv : v ∈ report.violations) :
    (∃ (p : Path) (place : FileTree.Place), tree.follow? p = some place ∧
        v.location.file = p.relativeTo a.root) ∧
      OneLine v.message.toList := by
  obtain ⟨-, -, cs, -, hText, rfl⟩ := run_eq_ok_iff.1 hRun
  obtain ⟨file, hFile, r, -, hFound⟩ := mem_collect_iff.1 hv
  obtain ⟨c, hc, rfl⟩ := List.mem_map.1 hFile
  refine ⟨⟨c.path, ?_⟩, oneLine_message (fun s h => oneLine_of_lookup_builtin) hFound⟩
  obtain ⟨text, hSome⟩ := Option.isSome_iff_exists.1 (hText c hc)
  obtain ⟨bytes, hBytes, -⟩ := Option.bind_eq_some_iff.1 hSome
  obtain ⟨sub, hFind, -⟩ := Option.bind_eq_some_iff.1 hBytes
  obtain ⟨-, above, hFollow⟩ := FileTree.find?_eq_some_iff.1 hFind
  obtain ⟨f, rfl⟩ := Rule.exists_finding_of_mem_check hFound
  exact ⟨_, hFollow, rfl⟩

/-- **A violation is shown on one line**, if no name in the tree has a line
break. -/
theorem render_of_mem_run (hNames : tree.NoName '\n') (hRun : a.run tree = .ok report)
    (hv : v ∈ report.violations) :
    '\n' ∉ v.render.toList ∧ v.render.toList.getLast? ≠ some '\r' := by
  obtain ⟨⟨p, place, hFollow, hFile⟩, hMessage⟩ := spelling_of_mem_run hRun hv
  have hRender : v.render.toList =
      v.location.file.text.toList ++ (": ".toList ++ v.message.toList) := by
    rw [Violation.render, String.toList_append, String.toList_append, List.append_assoc]
  have hRest : OneLine (": ".toList ++ v.message.toList) :=
    oneLine_append.2 ⟨by decide, hMessage⟩
  have hNe : ": ".toList ++ v.message.toList ≠ [] := by simp
  rw [hRender, List.mem_append, not_or]
  refine ⟨⟨?_, fun hc => (hRest _ hc).1 rfl⟩, ?_⟩
  · rw [hFile]
    intro hc
    rcases Path.mem_text_relativeTo hc with hSlash | hText
    · exact absurd hSlash (by decide)
    · exact hNames.not_mem_text (by decide) (by decide) hFollow hText
  · rw [List.getLast?_append_of_ne_nil _ hNe]
    intro hLast
    exact (hRest _ (List.mem_of_getLast? hLast)).2 rfl

end Analysis

-- ---------------------------------------------------------------------------
-- Settings
-- ---------------------------------------------------------------------------

namespace Command

variable {s : Surroundings} {path config : Path} {settings : Config}

/-- The settings that a config path stands for: the standard ones if there is
nothing at the path, else those that the file there spells. -/
inductive HasSettings (s : Surroundings) (path : Path) : Config → Prop
  | standard (missing : s.tree.findIn? s.directory path = none) : HasSettings s path {}
  | file {bytes : ByteArray} {text : String} {settings : Config}
      (found : s.tree.findIn? s.directory path = some (.file bytes))
      (spelled : String.fromUTF8? bytes = some text) (parsed : Config.parse text = .ok settings) :
      HasSettings s path settings

theorem loadConfig_eq_ok_iff : loadConfig s path = .ok settings ↔ HasSettings s path settings := by
  constructor
  · intro h
    rw [loadConfig] at h
    split at h
    case h_1 hNone =>
      cases h
      exact .standard hNone
    case h_2 => cases h
    case h_3 bytes hFile =>
      split at h
      case h_1 => cases h
      case h_2 text hText =>
        split at h
        case h_1 parsed hParse =>
          cases h
          exact .file hFile hText hParse
        case h_2 => cases h
  · intro h
    cases h with
    | standard missing => rw [loadConfig, missing]
    | file found spelled parsed =>
      rw [loadConfig, found]
      simp only [spelled, parsed]

-- ---------------------------------------------------------------------------
-- The command
-- ---------------------------------------------------------------------------

/-- What is seen of a check with a report: a line for every violation, and the
counts of these lines. -/
structure Shows (result : Result) (report : Report) : Prop where
  stdout : Text.lines result.stdout.toList =
    report.violations.map fun v => (v.location.file.text ++ ": " ++ v.message).toList
  stderr : result.stderr = "\n" ++ line (toString (report.count .error) ++ " error(s), "
    ++ toString (report.count .warning) ++ " warning(s), " ++ toString (report.count .info)
    ++ " info(s) in " ++ toString report.filesChecked ++ " file(s)")
  total : report.count .error + report.count .warning + report.count .info =
    (Text.lines result.stdout.toList).length
  passed : report.count .error = 0 ↔ result.exit = 0

theorem exit_reportResult {report : Report} :
    (reportResult report).exit = 0 ↔ report.outcome = .success := by
  rw [reportResult]
  by_cases h : report.outcome = .success <;> simp [h]

theorem shows_reportResult {a : Analysis} {tree : FileTree} {report : Report}
    (hNames : tree.NoName '\n') (hRun : a.run tree = .ok report) :
    Shows (reportResult report) report := by
  have hLines : Text.lines (reportResult report).stdout.toList =
      report.violations.map fun v => v.render.toList := by
    have hEach : ∀ l ∈ report.violations.map Violation.render,
        '\n' ∉ l.toList ∧ l.toList.getLast? ≠ some '\r' := by
      intro l hl
      obtain ⟨v, hv, rfl⟩ := List.mem_map.1 hl
      exact Analysis.render_of_mem_run hNames hRun hv
    have hRead := lines_unlines hEach
    rwa [List.map_map] at hRead
  refine ⟨hLines, rfl, ?_, Report.count_error_eq_zero_iff.trans exit_reportResult.symm⟩
  rw [hLines, List.length_map, report.sum_counts]

/-- Remarks apart, two results are the same. -/
structure SameButRemarks (a b : Result) : Prop where
  exit   : b.exit = a.exit
  stdout : b.stdout = a.stdout
  stderr : b.stderr = a.stderr

theorem Shows.of_same {a b : Result} {report : Report} (h : Shows a report)
    (hSame : SameButRemarks a b) : Shows b report := by
  obtain ⟨hStdout, hStderr, hTotal, hPassed⟩ := h
  refine ⟨?_, hSame.stderr.trans hStderr, ?_, ?_⟩
  · rw [hSame.stdout, hStdout]
  · rw [hSame.stdout, hTotal]
  · rw [hSame.exit, hPassed]

theorem SameButRemarks.trans {a b c : Result} (hab : SameButRemarks a b)
    (hbc : SameButRemarks b c) : SameButRemarks a c :=
  ⟨hbc.exit.trans hab.exit, hbc.stdout.trans hab.stdout, hbc.stderr.trans hab.stderr⟩

theorem sameButRemarks_execute (s : Surroundings) {arguments : List String} {flags : Flags}
    {rule : Option String}
    (hParse : Request.parse arguments = .ok (.run flags (.check path rule config))) :
    SameButRemarks (runCheck s path rule config) (execute s arguments).1 := by
  rw [execute, hParse]
  exact ⟨rfl, rfl, rfl⟩

section Ends

variable {rule : Option String}

theorem runCheck_of_noSettings {e : ConfigError} (hBad : loadConfig s config = .error e) :
    runCheck s path rule config =
      { exit := 1, stderr := line ("Config error: " ++ e.message) } := by
  rw [runCheck, hBad]

theorem runCheck_of_noReport {e : AnalysisError} (hFound : loadConfig s config = .ok settings)
    (hBad : (⟨s.directory.join path, settings, rule⟩ : Analysis).run s.tree = .error e) :
    SameButRemarks { exit := 1, stderr := line ("Analysis error: " ++ e.message) }
      (runCheck s path rule config) := by
  rw [runCheck, hFound]
  simp only [hBad]
  exact ⟨rfl, rfl, rfl⟩

theorem runCheck_of_report {report : Report} (hFound : loadConfig s config = .ok settings)
    (hRun : (⟨s.directory.join path, settings, rule⟩ : Analysis).run s.tree = .ok report) :
    SameButRemarks (reportResult report) (runCheck s path rule config) := by
  rw [runCheck, hFound]
  simp only [hRun]
  exact ⟨rfl, rfl, rfl⟩

/-- A check passes if there are settings and a report without errors. -/
theorem exit_runCheck_eq_zero_iff :
    (runCheck s path rule config).exit = 0 ↔ ∃ settings report, loadConfig s config = .ok settings ∧
      (⟨s.directory.join path, settings, rule⟩ : Analysis).run s.tree = .ok report ∧
      ∀ v ∈ report.violations, v.severity ≠ .error := by
  cases hLoad : loadConfig s config with
  | error e => simp [runCheck_of_noSettings hLoad]
  | ok settings =>
    cases hRun : (⟨s.directory.join path, settings, rule⟩ : Analysis).run s.tree with
    | error e => simp [(runCheck_of_noReport hLoad hRun).exit, hRun]
    | ok report =>
      rw [(runCheck_of_report hLoad hRun).exit, exit_reportResult, Report.outcome_eq_success_iff]
      simp [hRun]

theorem exit_runCheck :
    (runCheck s path rule config).exit = 0 ∨ (runCheck s path rule config).exit = 1 := by
  cases hLoad : loadConfig s config with
  | error e => exact Or.inr (congrArg Result.exit (runCheck_of_noSettings hLoad))
  | ok settings =>
    cases hRun : (⟨s.directory.join path, settings, rule⟩ : Analysis).run s.tree with
    | error e => exact Or.inr (runCheck_of_noReport hLoad hRun).exit
    | ok report =>
      rw [(runCheck_of_report hLoad hRun).exit, reportResult]
      exact ite_eq_or_eq ..

end Ends

/-- **The check command** passes if there are settings and a report without
errors, says what is missing if there is no report, and else shows every
violation on a line of its own with the counts of these lines. -/
theorem execute_check (s : Surroundings) {arguments : List String} {flags : Flags} {path : Path}
    {rule : Option String} {config : Path}
    (hParse : Request.parse arguments = .ok (.run flags (.check path rule config)))
    (hNames : s.tree.NoName '\n') :
    let result := (execute s arguments).1
    let analysis (settings : Config) : Analysis := ⟨s.directory.join path, settings, rule⟩
    (result.exit = 0 ↔ ∃ settings report, HasSettings s config settings ∧
        (analysis settings).run s.tree = .ok report ∧
        ∀ v ∈ report.violations, v.severity ≠ .error) ∧
      (result.exit = 0 ∨ result.exit = 1) ∧
      ((¬ ∃ settings, HasSettings s config settings) →
        result.stdout = "" ∧ ∃ e : ConfigError, loadConfig s config = .error e ∧
          result.stderr = line ("Config error: " ++ e.message)) ∧
      ∀ settings, HasSettings s config settings →
        (∀ e, (analysis settings).run s.tree = .error e →
          result.stdout = "" ∧ result.stderr = line ("Analysis error: " ++ e.message)) ∧
        ∀ report, (analysis settings).run s.tree = .ok report → Shows result report := by
  intro result analysis
  have hSame : SameButRemarks (runCheck s path rule config) result :=
    sameButRemarks_execute s hParse
  simp only [← loadConfig_eq_ok_iff]
  refine ⟨?_, ?_, fun hNone => ?_, fun settings hFound => ⟨fun e hBad => ?_, fun report hRun => ?_⟩⟩
  · rw [hSame.exit]
    exact exit_runCheck_eq_zero_iff
  · rw [hSame.exit]
    exact exit_runCheck
  · cases hLoad : loadConfig s config with
    | error e =>
      rw [runCheck_of_noSettings hLoad] at hSame
      exact ⟨hSame.stdout, e, rfl, hSame.stderr⟩
    | ok settings => exact absurd ⟨settings, hLoad⟩ hNone
  · have hResult := (runCheck_of_noReport hFound hBad).trans hSame
    exact ⟨hResult.stdout, hResult.stderr⟩
  · exact (shows_reportResult hNames hRun).of_same ((runCheck_of_report hFound hRun).trans hSame)

/-- A check of a tree in which two rules find something, without a config
file. -/
def inUnguarded : Surroundings where
  tree := Analysis.unguardedTree
  directory := ⟨"/r"⟩

/-- Both findings are shown, and they make the check fail. -/
theorem execute_check_inUnguarded :
    (execute inUnguarded ["check"]).1.exit = 1 ∧
      Text.lines (execute inUnguarded ["check"]).1.stdout.toList =
        ["a.h: Bad or missing guard. Expected A_H.".toList,
          "a.h: map included but not required".toList] ∧
      (execute inUnguarded ["check"]).1.stderr =
        "\n2 error(s), 0 warning(s), 0 info(s) in 1 file(s)\n" := by
  have hParse : Request.parse ["check"] =
      .ok (.run {} (.check ⟨"."⟩ none ⟨"srccheck.toml"⟩)) := by
    decide +kernel
  have hLoad : (⟨⟨"/r/."⟩, {}, none⟩ : Analysis).load Analysis.unguardedTree =
      .ok [⟨⟨"a.h"⟩, .header, false, "#include <map>"⟩] := by
    decide +kernel
  have hRun := congrArg (Except.map (⟨⟨"/r/."⟩, {}, none⟩ : Analysis).reportOn) hLoad
  rw [← Analysis.run_eq] at hRun
  have hSettings : HasSettings inUnguarded ⟨"srccheck.toml"⟩ {} := .standard rfl
  obtain ⟨-, hCode, -, hEach⟩ := execute_check inUnguarded hParse (by decide +kernel)
  have hShows := (hEach {} hSettings).2 _ hRun
  refine ⟨?_, ?_, ?_⟩
  · refine hCode.resolve_left fun hZero => ?_
    exact absurd (hShows.passed.2 hZero) (by decide +kernel)
  · exact hShows.stdout.trans (by decide +kernel)
  · exact hShows.stderr.trans (by decide +kernel)

end Command

end SourceLint
