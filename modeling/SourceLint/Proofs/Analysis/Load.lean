import SourceLint.Proofs.Analysis.Run
import SourceLint.Proofs.Config.Settings
import SourceLint.Proofs.Rule.Check

/-!
# Reading first, judging later

A run first reads its files and then judges what it has read (`run_eq`). All
that can fail is in the first half, and there only the root, the scope and a
chosen name that is no rule count. Runs that agree in these read the same files
(`Alike.load_eq`), and they can fail in the same ways (`Alike.ending_error`),
however differently they judge.

* `run_eq`              — a run is a report on what it has read.
* `Alike`               — two runs that read the same.
* `run_of_judgesAlike`  — and two that also judge alike.
* `mem_collect_iff`     — what is in a report.
-/

namespace SourceLint.Analysis

variable {a b : Analysis} {tree : FileTree}

-- ---------------------------------------------------------------------------
-- The two halves of a run
-- ---------------------------------------------------------------------------

/-- The files of the run, as the rules see them. -/
def load (a : Analysis) (tree : FileTree) : Except AnalysisError (List SourceFile) := do
  a.precheck tree
  let candidates ← a.discover tree
  candidates.mapM (a.read tree)

/-- The report on files that have been read. -/
def reportOn (a : Analysis) (files : List SourceFile) : Report :=
  ⟨a.collect files, files.length⟩

/-- **A run is a report on what it has read.** -/
theorem run_eq (a : Analysis) (tree : FileTree) : a.run tree = (a.load tree).map a.reportOn := by
  rw [run, load]
  cases a.precheck tree with
  | error e => rfl
  | ok _ =>
    cases a.discover tree with
    | error e => rfl
    | ok cs =>
      show (cs.mapM (a.read tree) >>= fun files => .ok ⟨a.collect files, cs.length⟩) =
        (cs.mapM (a.read tree)).map a.reportOn
      cases hRead : cs.mapM (a.read tree) with
      | error e => rfl
      | ok files =>
        have hLength : files.length = cs.length := length_of_mapM hRead
        show Except.ok (Report.mk (a.collect files) cs.length) = .ok (a.reportOn files)
        rw [reportOn, hLength]

/-- What is in a report was found by a rule that takes part. -/
theorem mem_collect_iff {files : List SourceFile} {v : Violation} :
    v ∈ a.collect files ↔
      ∃ file ∈ files, ∃ r, a.applies r = true ∧ v ∈ Rule.check a.context file r := by
  rw [collect, (sortBy_perm _).mem_iff, List.mem_flatMap]
  refine exists_congr fun file => and_congr_right fun _ => ?_
  rw [checkFile, List.mem_flatMap]
  exact exists_congr fun r => by rw [List.mem_filter, and_iff_right r.mem_inOrder]

-- ---------------------------------------------------------------------------
-- Runs that read the same
-- ---------------------------------------------------------------------------

/-- The chosen name, if it is no rule. -/
def unknown? (a : Analysis) : Option String :=
  a.only.filter fun name => (Rule.ofName? name).isNone

/-- Two runs that read the same files. They may judge them by other rules, or
in another way. -/
structure Alike (a b : Analysis) : Prop where
  root    : b.root = a.root
  scope   : b.config.scope = a.config.scope
  unknown : b.unknown? = a.unknown?

theorem unknown?_eq_some_iff {name : String} :
    a.unknown? = some name ↔ a.only = some name ∧ Rule.ofName? name = none := by
  rw [unknown?, Option.filter_eq_some_iff, Option.isNone_iff_eq_none]

theorem knowsRule_iff_unknown? : a.KnowsRule ↔ a.unknown? = none := by
  rw [knowsRule_iff, Option.eq_none_iff_forall_ne_some]
  refine forall_congr' fun name => ?_
  rw [ne_eq, ne_eq, unknown?_eq_some_iff, not_and]

/-- A rule is no unknown name. -/
theorem unknown?_of_rule (root : Path) (config : Config) (r : Rule) :
    (⟨root, config, some r.name⟩ : Analysis).unknown? = none := by
  exact knowsRule_iff_unknown?.1 fun name hOnly => ⟨r, r.mem_all, Option.some.inj hOnly⟩

namespace Alike

theorem symm (h : Alike a b) : Alike b a :=
  ⟨h.root.symm, h.scope.symm, h.unknown.symm⟩

theorem knowsRule (h : Alike a b) : a.KnowsRule ↔ b.KnowsRule := by
  rw [knowsRule_iff_unknown?, knowsRule_iff_unknown?, h.unknown]

/-- They read the same files. -/
theorem load_eq (h : Alike a b) (tree : FileTree) : b.load tree = a.load tree := by
  have hCheck : b.precheck tree = a.precheck tree := by
    have hUnknown : (b.only.filter fun name => (Rule.ofName? name).isNone) =
        a.only.filter fun name => (Rule.ofName? name).isNone := h.unknown
    rw [precheck, precheck, hUnknown, h.root]
  have hFound : b.discover tree = a.discover tree := by
    rw [discover, discover, h.scope, h.root]
  have hRead : b.read tree = a.read tree := by
    funext c
    rw [read, read, h.root]
  rw [load, load, hCheck, hFound, hRead]

/-- They can fail in the same ways, also where several files are no text. -/
theorem ending_error (h : Alike a b) {e : AnalysisError} (hEnd : Ending a tree (.error e)) :
    Ending b tree (.error e) := by
  have hHas : a.HasRoot tree → b.HasRoot tree := by
    rw [HasRoot, HasRoot, h.root]
    exact id
  cases hEnd with
  | unknownRule only unknown =>
    have hSome := unknown?_eq_some_iff.2 ⟨only, unknown⟩
    rw [← h.unknown, unknown?_eq_some_iff] at hSome
    exact .unknownRule hSome.1 hSome.2
  | rootNotFound rule root =>
    have hNot : ¬ b.HasRoot tree := by
      rw [HasRoot, h.root]
      exact root
    exact h.root ▸ .rootNotFound (h.knowsRule.1 rule) hNot
  | badPattern rule root bad =>
    rw [← h.scope, ← h.root] at bad
    exact .badPattern (h.knowsRule.1 rule) (hHas root) bad
  | unreadable rule root bad =>
    rw [← h.scope, ← h.root] at bad
    exact .unreadable (h.knowsRule.1 rule) (hHas root) bad
  | notText rule root found mem bad =>
    rw [← h.scope, ← h.root] at found
    exact .notText (h.knowsRule.1 rule) (hHas root) found mem bad

theorem ending_error_iff (h : Alike a b) (tree : FileTree) (e : AnalysisError) :
    Ending b tree (.error e) ↔ Ending a tree (.error e) :=
  ⟨h.symm.ending_error, h.ending_error⟩

end Alike

-- ---------------------------------------------------------------------------
-- Runs that judge the same
-- ---------------------------------------------------------------------------

section JudgesAlike

variable {c d : Config} (h : c.JudgesAlike d) (root : Path) (only : Option String)

include h

/-- Of the settings of the rules only what they come to is read. -/
theorem collect_of_judgesAlike :
    (⟨root, d, only⟩ : Analysis).collect = (⟨root, c, only⟩ : Analysis).collect := by
  have hApplies : (⟨root, d, only⟩ : Analysis).applies = (⟨root, c, only⟩ : Analysis).applies := by
    funext r
    rw [applies, applies, h.isEnabled]
  have hContext : (⟨root, d, only⟩ : Analysis).context = (⟨root, c, only⟩ : Analysis).context := by
    rw [context, context, h.maxLength, funext h.severityOf]
  have hCheck :
      (⟨root, d, only⟩ : Analysis).checkFile = (⟨root, c, only⟩ : Analysis).checkFile := by
    funext file
    rw [checkFile, checkFile, hApplies, hContext]
  funext files
  rw [collect, collect, hCheck]

/-- Configs that look at the same files and judge alike have the same runs. -/
theorem run_of_judgesAlike (hScope : d.scope = c.scope) (tree : FileTree) :
    (⟨root, d, only⟩ : Analysis).run tree = (⟨root, c, only⟩ : Analysis).run tree := by
  have hAlike : Alike ⟨root, c, only⟩ ⟨root, d, only⟩ := ⟨rfl, hScope, rfl⟩
  have hReport : (⟨root, d, only⟩ : Analysis).reportOn = (⟨root, c, only⟩ : Analysis).reportOn := by
    funext files
    rw [reportOn, reportOn, collect_of_judgesAlike h root only]
  rw [run_eq, run_eq, hAlike.load_eq tree, hReport]

end JudgesAlike

end SourceLint.Analysis
