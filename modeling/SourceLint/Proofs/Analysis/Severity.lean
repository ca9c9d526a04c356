import SourceLint.Proofs.Analysis.Load
import SourceLint.Proofs.Analysis.Order
import SourceLint.Proofs.Config.Settings

/-!
# Severities

A severity is only put on what a rule has found. Runs whose configs differ in
severities alone read the same files, apply the same rules and find the same,
and no severity counts when violations are put in order. What a severity
decides is the outcome.

* `run_findings`   — the same findings under other severities.
* `run_severity`   — what severities change, and what they do not.
-/

namespace SourceLint

/-- What was found: a violation but for its severity. -/
def Violation.finding (v : Violation) : String × Location × String :=
  (v.rule, v.location, v.message)

/-- A report but for its severities. -/
def Report.findings (report : Report) : Nat × List (String × Location × String) :=
  (report.filesChecked, report.violations.map Violation.finding)

theorem Report.outcome_eq_fail_iff {report : Report} :
    report.outcome = .fail ↔ ∃ v ∈ report.violations, v.severity = .error := by
  have hErrors : report.hasErrors = true ↔ ∃ v ∈ report.violations, v.severity = .error := by
    rw [hasErrors, List.any_eq_true]
    simp only [decide_eq_true_eq]
  rw [← hErrors, outcome]
  split
  case isTrue h => exact iff_of_true rfl h
  case isFalse h => exact iff_of_false (by decide) h

namespace Analysis

variable {c d : Config} {root : Path} {only : Option String} {tree : FileTree}

-- ---------------------------------------------------------------------------
-- The same findings
-- ---------------------------------------------------------------------------

theorem finding_checkFile (h : c.SameButSeverity d) (file : SourceFile) :
    ((⟨root, d, only⟩ : Analysis).checkFile file).map Violation.finding =
      ((⟨root, c, only⟩ : Analysis).checkFile file).map Violation.finding := by
  have hApplies : (⟨root, d, only⟩ : Analysis).applies = (⟨root, c, only⟩ : Analysis).applies := by
    funext r
    rw [applies, applies, h.isEnabled]
  rw [checkFile, checkFile, hApplies, List.map_flatMap, List.map_flatMap]
  apply List.flatMap_congr
  intro r _
  obtain ⟨findings, hFindings⟩ :=
    Rule.check_eq_map_findings Knowledge.builtin c.maxLength file r
  rw [context, context, h.maxLength, hFindings, hFindings, List.map_map, List.map_map]
  rfl

theorem finding_collect (h : c.SameButSeverity d) (files : List SourceFile) :
    ((⟨root, d, only⟩ : Analysis).collect files).map Violation.finding =
      ((⟨root, c, only⟩ : Analysis).collect files).map Violation.finding := by
  -- the order looks at the files alone, so it is an order of findings
  have hSort : ∀ vs : List Violation,
      (sortBy (fun v w => v.location.file.le w.location.file) vs).map Violation.finding =
        sortBy (fun f g => f.2.1.file.le g.2.1.file) (vs.map Violation.finding) := by
    intro vs
    rw [sortBy_map]
    rfl
  rw [collect, collect, hSort, hSort, List.map_flatMap, List.map_flatMap]
  congr 1
  exact List.flatMap_congr fun file _ => finding_checkFile h file

/-- Configs that differ in severities alone look at the same files. -/
theorem alike_of_sameButSeverity (h : c.SameButSeverity d) (root : Path) (only : Option String) :
    Alike ⟨root, c, only⟩ ⟨root, d, only⟩ :=
  ⟨rfl, h.scope, rfl⟩

/-- **Under other severities the same is found**, or the run fails alike. -/
theorem run_findings (h : c.SameButSeverity d) (root : Path) (only : Option String)
    (tree : FileTree) :
    ((⟨root, d, only⟩ : Analysis).run tree).map Report.findings =
      ((⟨root, c, only⟩ : Analysis).run tree).map Report.findings := by
  rw [run_eq, run_eq, (alike_of_sameButSeverity h root only).load_eq tree]
  cases (⟨root, c, only⟩ : Analysis).load tree with
  | error e => rfl
  | ok files =>
    exact congrArg (fun found => Except.ok (files.length, found)) (finding_collect h files)

-- ---------------------------------------------------------------------------
-- What a severity decides
-- ---------------------------------------------------------------------------

/-- Every violation has the severity that is set for its rule. -/
theorem severity_of_mem_run {report : Report}
    (hRun : (⟨root, c, only⟩ : Analysis).run tree = .ok report) {v : Violation}
    (hv : v ∈ report.violations) :
    v.severity = (c.severity? v.rule).getD .error := by
  obtain ⟨-, -, cs, -, -, rfl⟩ := run_eq_ok_iff.1 hRun
  obtain ⟨file, -, r, -, hFound⟩ := mem_collect_iff.1 hv
  rw [Rule.severity_of_mem_check hFound, Rule.rule_of_mem_check hFound]
  rfl

/-- **Severities do not change what is found.** Every violation has the one
that is set for its rule, and a run fails by the errors among them. -/
theorem run_severity (h : c.SameButSeverity d) (root : Path) (only : Option String)
    (tree : FileTree) :
    ((⟨root, d, only⟩ : Analysis).run tree).map Report.findings =
        ((⟨root, c, only⟩ : Analysis).run tree).map Report.findings ∧
      (∀ e, Ending ⟨root, d, only⟩ tree (.error e) ↔ Ending ⟨root, c, only⟩ tree (.error e)) ∧
      ∀ (config : Config) (report : Report),
        (⟨root, config, only⟩ : Analysis).run tree = .ok report →
          (∀ v ∈ report.violations, v.severity = (config.severity? v.rule).getD .error) ∧
          (report.outcome = .fail ↔
            ∃ v ∈ report.violations, (config.severity? v.rule).getD .error = .error) := by
  refine ⟨run_findings h root only tree, ?_, fun config report hRun => ?_⟩
  · exact (alike_of_sameButSeverity h root only).ending_error_iff tree
  · have hEach : ∀ v ∈ report.violations, v.severity = (config.severity? v.rule).getD .error :=
      fun v hv => severity_of_mem_run hRun hv
    refine ⟨hEach, Report.outcome_eq_fail_iff.trans (exists_congr fun v => ?_)⟩
    exact and_congr_right fun hv => by rw [hEach v hv]

/-- A header in which two rules find something. -/
def unguardedTree : FileTree :=
  .dir [("r", .dir [("a.h", .file "#include <map>".toUTF8)])]

/-- Settings under which neither finding is an error. -/
def mild : Config where
  rules := [("header-guard", { severity := some .info }),
    ("system-includes", { severity := some .warning })]

theorem sameButSeverity_mild : ({} : Config).SameButSeverity mild where
  scope := rfl
  settings name := by
    rw [Config.settingsOf, Config.settingsOf, Config.rule?, Config.rule?, mild, List.lookup_cons,
      List.lookup_cons]
    split
    · rfl
    · split <;> rfl

/-- The same is found, and only under the standard settings the run fails. -/
theorem run_severity_mild : ∃ strictReport mildReport : Report,
    (⟨⟨"/r"⟩, {}, none⟩ : Analysis).run unguardedTree = .ok strictReport ∧
      (⟨⟨"/r"⟩, mild, none⟩ : Analysis).run unguardedTree = .ok mildReport ∧
      mildReport.findings = strictReport.findings ∧
      strictReport.outcome = .fail ∧ mildReport.outcome = .success := by
  have hLoad : (⟨⟨"/r"⟩, {}, none⟩ : Analysis).load unguardedTree =
      .ok [⟨⟨"a.h"⟩, .header, false, "#include <map>"⟩] := by
    decide +kernel
  have hAlike := alike_of_sameButSeverity sameButSeverity_mild ⟨"/r"⟩ none
  have hStrict := congrArg (Except.map (⟨⟨"/r"⟩, {}, none⟩ : Analysis).reportOn) hLoad
  have hMild := congrArg (Except.map (⟨⟨"/r"⟩, mild, none⟩ : Analysis).reportOn)
    ((hAlike.load_eq unguardedTree).trans hLoad)
  rw [← run_eq] at hStrict hMild
  have hSame := (run_severity sameButSeverity_mild ⟨"/r"⟩ none unguardedTree).1
  rw [hStrict, hMild] at hSame
  exact ⟨_, _, hStrict, hMild, Except.ok.inj hSame, by decide +kernel, by decide +kernel⟩

end Analysis

end SourceLint
