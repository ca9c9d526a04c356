import SourceLint.Proofs.Analysis.Load
import SourceLint.Proofs.Analysis.Order
import SourceLint.Proofs.Config.Settings

/-!
# Choosing rules

To choose one rule, or to switch one off, is to take a part of the whole
report: the files that are read stay the same, every violation carries the name
of its rule, and leaving violations out commutes with putting them in order
(`run_of_selection`). The reports on the single rules are the whole report in
parts.

* `run_of_selection`  — a report on some of the rules.
* `run_selection`     — one rule chosen, one rule switched off, and all together.
-/

namespace SourceLint

-- ---------------------------------------------------------------------------
-- A report on some of the rules
-- ---------------------------------------------------------------------------

/-- The report with some of its violations. -/
def Report.restrict (report : Report) (keep : Violation → Bool) : Report :=
  { report with violations := report.violations.filter keep }

namespace Analysis

variable {a b : Analysis}

/-- What some of the rules find in a file is a part of what is found in it. -/
theorem checkFile_of_selection (hContext : b.context = a.context) {keep : Rule → Bool}
    (hApplies : ∀ r, b.applies r = (keep r && a.applies r)) {kept : Violation → Bool}
    (hKept : ∀ v r, v.rule = r.name → kept v = keep r) (file : SourceFile) :
    b.checkFile file = (a.checkFile file).filter kept := by
  have hRules : Rule.inOrder.filter b.applies =
      (Rule.inOrder.filter a.applies).filter keep := by
    rw [List.filter_filter]
    exact List.filter_congr fun r _ => hApplies r
  -- a rule keeps all that it found, or nothing of it
  have hEach : ∀ r, ∀ v ∈ Rule.check a.context file r, kept v = keep r := fun r v hv =>
    hKept v r (Rule.rule_of_mem_check hv)
  rw [checkFile, checkFile, hRules, hContext, filter_flatMap_of_const hEach]

/-- **A run with some of the rules** reports a part of what the run with all of
them reports. -/
theorem run_of_selection (hAlike : Alike a b) (hContext : b.context = a.context)
    (keep : Rule → Bool) (hApplies : ∀ r, b.applies r = (keep r && a.applies r))
    {kept : Violation → Bool} (hKept : ∀ v r, v.rule = r.name → kept v = keep r)
    (tree : FileTree) : b.run tree = (a.run tree).map (·.restrict kept) := by
  have hReport : ∀ files, b.reportOn files = (a.reportOn files).restrict kept := by
    intro files
    rw [reportOn, reportOn, Report.restrict, collect, collect, filter_sortBy, List.filter_flatMap]
    congr 2
    exact List.flatMap_congr fun file _ => checkFile_of_selection hContext hApplies hKept file
  rw [run_eq, run_eq, hAlike.load_eq tree]
  cases a.load tree with
  | error e => rfl
  | ok files => exact congrArg Except.ok (hReport files)

-- ---------------------------------------------------------------------------
-- One rule chosen, one rule switched off
-- ---------------------------------------------------------------------------

theorem alike_choose (root : Path) (c : Config) (r : Rule) :
    Alike ⟨root, c, none⟩ ⟨root, c, some r.name⟩ :=
  ⟨rfl, rfl, unknown?_of_rule root c r⟩

theorem run_choose (root : Path) (c : Config) (r : Rule) (tree : FileTree) :
    (⟨root, c, some r.name⟩ : Analysis).run tree =
      ((⟨root, c, none⟩ : Analysis).run tree).map (·.restrict (·.rule = r.name)) := by
  refine run_of_selection (alike_choose root c r) rfl (fun s => decide (s = r)) ?_ ?_ tree
  · intro s
    show (decide (r.name = s.name) && c.isEnabled s.name) =
      (decide (s = r) && (true && c.isEnabled s.name))
    rw [Bool.true_and]
    congr 1
    exact decide_eq_decide.2 (eq_comm.trans Rule.name_eq_iff)
  · intro v s hv
    rw [hv]
    exact decide_eq_decide.2 Rule.name_eq_iff

theorem run_switchOff (root : Path) (c : Config) (r : Rule) (only : Option String)
    (tree : FileTree) :
    (⟨root, c.switchOff r, only⟩ : Analysis).run tree =
      ((⟨root, c, only⟩ : Analysis).run tree).map (·.restrict (·.rule ≠ r.name)) := by
  have hContext : (⟨root, c.switchOff r, only⟩ : Analysis).context =
      (⟨root, c, only⟩ : Analysis).context := by
    rw [context, context, Config.maxLength_switchOff, Config.severityOf_switchOff]
  have hAlike : Alike ⟨root, c, only⟩ ⟨root, c.switchOff r, only⟩ := ⟨rfl, rfl, rfl⟩
  refine run_of_selection hAlike hContext (fun s => decide (s ≠ r)) ?_ ?_ tree
  · intro s
    rw [applies, applies, Config.isEnabled_switchOff, Bool.and_left_comm]
    congr 1
    exact decide_eq_decide.2 (not_congr Rule.name_eq_iff)
  · intro v s hv
    rw [hv]
    exact decide_eq_decide.2 (not_congr Rule.name_eq_iff)

/-- The reports on the single rules make up the whole report. -/
theorem perm_violations_of_rules {root : Path} {c : Config} {tree : FileTree} {report : Report}
    (hRun : (⟨root, c, none⟩ : Analysis).run tree = .ok report) :
    (Rule.all.flatMap fun r => report.violations.filter (·.rule = r.name)).Perm
      report.violations := by
  have hNames : (Rule.all.map Rule.name).Nodup := by decide
  have hKnown : ∀ v ∈ report.violations, v.rule ∈ Rule.all.map Rule.name := by
    intro v hv
    obtain ⟨-, -, cs, -, -, rfl⟩ := run_eq_ok_iff.1 hRun
    obtain ⟨file, -, r, -, hFound⟩ := mem_collect_iff.1 hv
    rw [Rule.rule_of_mem_check hFound]
    exact List.mem_map_of_mem r.mem_all
  have hPerm := perm_flatMap_filter Violation.rule hNames hKnown
  rwa [List.flatMap_map] at hPerm

/-- **To choose a rule is to take its part of the whole report**, to switch it
off is to take the rest, and the parts of the rules make up the whole. -/
theorem run_selection (root : Path) (config : Config) (tree : FileTree) :
    (∀ r : Rule,
      (⟨root, config, some r.name⟩ : Analysis).run tree =
          ((⟨root, config, none⟩ : Analysis).run tree).map (·.restrict (·.rule = r.name)) ∧
        (∀ e, Ending ⟨root, config, some r.name⟩ tree (.error e) ↔
          Ending ⟨root, config, none⟩ tree (.error e)) ∧
        (⟨root, config.switchOff r, none⟩ : Analysis).run tree =
          ((⟨root, config, none⟩ : Analysis).run tree).map (·.restrict (·.rule ≠ r.name))) ∧
    ∀ report, (⟨root, config, none⟩ : Analysis).run tree = .ok report →
      ∃ part : Rule → Report,
        (∀ r : Rule, (⟨root, config, some r.name⟩ : Analysis).run tree = .ok (part r)) ∧
          (Rule.all.flatMap fun r => (part r).violations).Perm report.violations := by
  refine ⟨fun r => ⟨run_choose root config r tree, ?_, run_switchOff root config r none tree⟩, ?_⟩
  · exact (alike_choose root config r).ending_error_iff tree
  · intro report hRun
    refine ⟨fun r => report.restrict (·.rule = r.name), fun r => ?_, perm_violations_of_rules hRun⟩
    rw [run_choose, hRun]
    rfl

/-- A header and a test in which three rules find something. -/
def mixedTree : FileTree :=
  .dir [("r", .dir [("a.h", .file "#include <map>".toUTF8),
    ("b_test.cpp", .file "TEST(Other, works) {}".toUTF8)])]

/-- The standard settings, with all rules or with one. -/
def mixed (only : Option String) : Analysis :=
  ⟨⟨"/r"⟩, {}, only⟩

/-- The three findings are spread over the reports on the single rules. -/
theorem run_selection_mixedTree :
    ∃ (report : Report) (part : Rule → Report), (mixed none).run mixedTree = .ok report ∧
      report.violations.map (·.rule) = ["header-guard", "system-includes", "test-group"] ∧
      (∀ r : Rule, (mixed (some r.name)).run mixedTree = .ok (part r)) ∧
      (Rule.all.flatMap fun r => (part r).violations).Perm report.violations := by
  have hFound : SourceLint.discover mixedTree (mixed none).config.scope (mixed none).root =
      .ok [⟨⟨"/r/a.h"⟩, .header⟩, ⟨⟨"/r/b_test.cpp"⟩, .source⟩] := by
    decide +kernel
  have hRun := run_eq_ok_iff.2 ⟨fun name hName => absurd hName.symm (Option.some_ne_none name),
    ⟨by decide, by decide +kernel⟩, _, hFound, by decide +kernel, rfl⟩
  obtain ⟨part, hParts, hPerm⟩ := (run_selection ⟨"/r"⟩ {} mixedTree).2 _ hRun
  exact ⟨_, part, hRun, by decide +kernel, hParts, hPerm⟩

end Analysis

end SourceLint
