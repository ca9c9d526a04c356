import SourceLint.Config.Initial
import SourceLint.Proofs.Analysis.Exclusion
import SourceLint.Proofs.Config.Document

/-!
# What a config text does to a run

A run reads of a config what it looks at and what the settings of each rule come
to. So two texts with the same scope that say the same of every rule have the
same runs, whatever else stands in their tables (`run_of_sameSay`).

The text of a new config file spells out the standard settings and leaves out
`.git` as well. Where a run without a config file has a report, a run with the
new one has the part of it that is located outside `.git` (`run_initial`).

* `run_of_sameSay`         — texts that say the same of every rule.
* `exists_initial_config`  — what the initial text holds.
* `run_initial`            — what it changes.
-/

namespace SourceLint

variable {tree : FileTree} {c d : Config}

-- ---------------------------------------------------------------------------
-- Texts that say the same
-- ---------------------------------------------------------------------------

namespace Config

theorem ofDocument_of_parse {text : String} {document : Toml.Value}
    (hDocument : Toml.parse text = .ok document) (h : parse text = .ok c) :
    ofDocument document = .ok c := by
  rwa [parse, hDocument] at h

end Config

namespace Analysis

/-- **Of the tables of the rules only three keys are read.** Two texts with the
same scope that say the same of every rule have the same runs. -/
theorem run_of_sameSay {text text' : String} {document document' : Toml.Value}
    (hDocument : Toml.parse text = .ok document) (hDocument' : Toml.parse text' = .ok document')
    (hConfig : Config.parse text = .ok c) (hConfig' : Config.parse text' = .ok d)
    (hScope : d.scope = c.scope) (hSame : Config.SameSay document document') (root : Path)
    (only : Option String) (tree : FileTree) :
    (⟨root, d, only⟩ : Analysis).run tree = (⟨root, c, only⟩ : Analysis).run tree := by
  have hJudge := Config.judgesAlike_of_sameSay (Config.ofDocument_of_parse hDocument hConfig)
    (Config.ofDocument_of_parse hDocument' hConfig') hSame
  exact run_of_judgesAlike hJudge root only hScope tree

/-- A table of no rule, a limit that is no natural number, keys that mean nothing,
and the limit in the table of another rule. -/
def idleText : String :=
  "[rules.no-such-rule]\nenabled = false\n"
    ++ "[rules.line-length]\nmax = -3\nwidth = 80\n"
    ++ "[rules.header-guard]\nmax = 10\nenabled = true\n"

/-- None of it has an effect: the text could as well be empty. -/
theorem run_of_idleText :
    ∃ c d, Config.parse "" = .ok c ∧ Config.parse idleText = .ok d ∧
      ∀ root only tree,
        (⟨root, d, only⟩ : Analysis).run tree = (⟨root, c, only⟩ : Analysis).run tree := by
  have hSame : (Toml.parse idleText).toOption.map Config.effectIn =
      some (Config.effectIn (.table [])) := by decide +kernel
  have hScope : (Config.parse idleText).toOption.map Config.scope = some {} := by decide +kernel
  obtain ⟨document, hDocument, hEffect⟩ := Option.map_eq_some_iff.1 hSame
  obtain ⟨d, hConfig, hScope⟩ := Option.map_eq_some_iff.1 hScope
  rw [toOption_eq_some_iff] at hDocument hConfig
  have hNothing : Toml.parse "" = .ok (.table []) := rfl
  have hStandard : Config.parse "" = .ok {} := rfl
  exact ⟨{}, d, hStandard, hConfig, run_of_sameSay hNothing hDocument hStandard hConfig hScope
    (Config.sameSay_of_effectIn hEffect)⟩

end Analysis

-- ---------------------------------------------------------------------------
-- The initial text
-- ---------------------------------------------------------------------------

/-- What a run with the initial config file looks at. -/
def initialScope : Scope where
  exclude := ["**/build/**", "**/.git/**"]

/-- The initial text holds the standard settings, but for one more pattern. -/
theorem exists_initial_config :
    ∃ config, Config.parse Config.initialText = .ok config ∧ config.scope = initialScope ∧
      ({} : Config).JudgesAlike config := by
  have hRead : (Config.parse Config.initialText).toOption.map (fun c => (c.scope, c.effect)) =
      some (initialScope, ({} : Config).effect) := by
    -- the characters are taken line by line before the text is read
    obtain ⟨cs, hText⟩ : ∃ cs, Config.initialText.toList = cs := ⟨_, rfl⟩
    rw [Config.parse, Toml.parse, hText]
    unfold Config.initialText at hText
    simp only [String.toList_append] at hText
    subst hText
    decide +kernel
  obtain ⟨config, hConfig, hSame⟩ := Option.map_eq_some_iff.1 hRead
  obtain ⟨hScope, hEffect⟩ := Prod.mk.inj hSame
  exact ⟨config, toOption_eq_some_iff.1 hConfig, hScope, Config.judgesAlike_of_effect hEffect⟩

theorem leavesOutMore_initialScope : ({} : Scope).LeavesOutMore initialScope "**/.git/**" where
  sources := rfl
  extensions := rfl
  patterns p := by
    show p ∈ ["**/build/**", "**/.git/**"] ↔ p ∈ ["**/build/**"] ∨ p = "**/.git/**"
    rw [List.mem_cons, List.mem_singleton, List.mem_singleton]

theorem leadsDown_standard : ({} : Scope).LeadsDown where
  source source hSource := ⟨[], by simp, List.mem_singleton.1 hSource⟩
  extension := by decide

namespace Analysis

/-- **A new config file changes nothing outside `.git`**: where a run without a
config file has a report, a run with the new one reports the part of it that is
located in no directory of that name. -/
theorem run_initial (hTree : tree.WellFormed) {root : Path} {only : Option String} {report : Report}
    (hRun : (⟨root, {}, only⟩ : Analysis).run tree = .ok report) :
    ∃ config cs rest, Config.parse Config.initialText = .ok config ∧
      (⟨root, {}, only⟩ : Analysis).discover tree = .ok cs ∧
      (⟨root, config, only⟩ : Analysis).run tree = .ok rest ∧
      rest.violations = report.violations.filter (fun v =>
        ".git" ∉ v.location.file.directoryNames) ∧
      rest.filesChecked + cs.countP (fun c => ".git" ∈ (c.path.relativeTo root).directoryNames) =
        report.filesChecked := by
  obtain ⟨config, hConfig, hScope, hJudge⟩ := exists_initial_config
  have hMore : ({} : Config).scope.LeavesOutMore config.scope "**/.git/**" :=
    hScope ▸ leavesOutMore_initialScope
  have hRoot : root.text ≠ "" := (run_eq_ok_iff.1 hRun).2.1.1
  have hGone : ∀ cs, SourceLint.discover tree ({} : Config).scope root = .ok cs → ∀ c ∈ cs,
      describesFile "**/.git/**" (c.path.relativeTo root) =
        decide (".git" ∈ (c.path.relativeTo root).directoryNames) := by
    have hText : "**/.git/**" = String.ofList (Glob.directoryText ".git".toList) := by decide
    rw [hText]
    exact fun cs hFound c hc => describesFile_directory_of_mem_discover hTree hRoot
      leadsDown_standard (by decide) hFound hc
  obtain ⟨cs, rest, hFound, hRest, hViolations, hCount⟩ :=
    run_of_leavesOutMore hTree leadsDown_standard hMore hJudge
      (fun file => decide (".git" ∈ file.directoryNames)) hGone only hRun
  refine ⟨config, cs, rest, hConfig, hFound, hRest, ?_, hCount⟩
  simpa only [decide_not] using hViolations

/-- Two files with findings, one of them below `.git`. -/
def repositoryTree : FileTree :=
  .dir [("r", .dir [(".git", .dir [("b.cpp", .file "#include <set>".toUTF8)]),
    ("a.cpp", .file "#include <map>".toUTF8)])]

/-- With the new config file only the other one is checked. -/
theorem run_initial_repositoryTree :
    ∃ report config rest, (⟨⟨"/r"⟩, {}, none⟩ : Analysis).run repositoryTree = .ok report ∧
      Config.parse Config.initialText = .ok config ∧
      (⟨⟨"/r"⟩, config, none⟩ : Analysis).run repositoryTree = .ok rest ∧
      report.filesChecked = 2 ∧ rest.filesChecked = 1 ∧
      rest.violations.map (·.location.file) = [⟨"a.cpp"⟩] := by
  have hFound : SourceLint.discover repositoryTree {} ⟨"/r"⟩ =
      .ok [⟨⟨"/r/.git/b.cpp"⟩, .source⟩, ⟨⟨"/r/a.cpp"⟩, .source⟩] := by
    decide +kernel
  have hRun : (⟨⟨"/r"⟩, {}, none⟩ : Analysis).run repositoryTree = .ok _ :=
    run_eq_ok_iff.2 ⟨fun name hName => absurd hName.symm (Option.some_ne_none name),
      ⟨by decide, by decide +kernel⟩, _, hFound, by decide +kernel, rfl⟩
  obtain ⟨config, cs, rest, hConfig, hFound', hRest, hViolations, hCount⟩ :=
    run_initial (by decide +kernel) hRun
  rw [discover_eq_ok_iff, hFound] at hFound'
  cases hFound'
  refine ⟨_, config, rest, hRun, hConfig, hRest, rfl, ?_, ?_⟩
  · exact Nat.add_right_cancel (hCount.trans (by decide +kernel : 2 = 1 + _))
  · rw [hViolations]
    decide +kernel

end Analysis

end SourceLint
