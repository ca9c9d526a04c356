import Mathlib.Data.List.Basic
import SourceLint.Config.Basic
import SourceLint.Proofs.FirstOccurrence
import SourceLint.Proofs.Rule.Check

/-!
# What the settings of a rule come to

A rule without a table has the settings of an empty one, and whether it is
enabled, how grave it is and what its options are is read from these settings
(`isEnabled_eq`, `severity?_eq`, `maxLength_eq`). So two configs come to the
same wherever these settings do.

* `settingsOf`            — the settings of a rule.
* `settingsOf_switchOff`  — a rule that is switched off.
* `SameButSeverity`       — configs that differ in severities alone.
* `JudgesAlike`           — configs that come to the same for every rule.
-/

namespace SourceLint

/-- The settings of a rule but for its severity. -/
def RuleSettings.withoutSeverity (s : RuleSettings) : RuleSettings :=
  { s with severity := none }

namespace Config

variable {c d : Config}

-- ---------------------------------------------------------------------------
-- The settings of a rule
-- ---------------------------------------------------------------------------

/-- What is set for the rule of that name; nothing is if there is no table. -/
def settingsOf (c : Config) (name : String) : RuleSettings :=
  (c.rule? name).getD {}

theorem isEnabled_eq (c : Config) (name : String) :
    c.isEnabled name = (c.settingsOf name).enabled.getD true := by
  rw [isEnabled, settingsOf]
  cases c.rule? name <;> rfl

theorem severity?_eq (c : Config) (name : String) :
    c.severity? name = (c.settingsOf name).severity := by
  rw [severity?, settingsOf]
  cases c.rule? name <;> rfl

theorem maxLength_eq (c : Config) :
    c.maxLength = (c.settingsOf Rule.lineLength.name).natOption "max" defaultMaxLength := by
  rw [maxLength, settingsOf]
  cases c.rule? Rule.lineLength.name <;> rfl

-- ---------------------------------------------------------------------------
-- A rule that is switched off
-- ---------------------------------------------------------------------------

/-- The settings with the rule switched off, all else as it was. -/
def switchOff (c : Config) (r : Rule) : Config :=
  { c with rules := (r.name, { c.settingsOf r.name with enabled := some false })
      :: c.rules.filter (·.1 ≠ r.name) }

theorem settingsOf_switchOff (c : Config) (r : Rule) (name : String) :
    (c.switchOff r).settingsOf name =
      if name = r.name then { c.settingsOf name with enabled := some false }
      else c.settingsOf name := by
  rw [settingsOf, rule?, switchOff, List.lookup_cons]
  split
  case h_1 h =>
    rw [if_pos (eq_of_beq h), eq_of_beq h]
    rfl
  case h_2 h =>
    have hNe := ne_of_beq_false h
    rw [if_neg hNe, lookup_filter_ne hNe]
    rfl

theorem isEnabled_switchOff (c : Config) (r : Rule) (name : String) :
    (c.switchOff r).isEnabled name = (decide (name ≠ r.name) && c.isEnabled name) := by
  rw [isEnabled_eq, isEnabled_eq, settingsOf_switchOff]
  split
  case isTrue h => simp [h]
  case isFalse h => simp [h]

theorem severityOf_switchOff (c : Config) (r : Rule) :
    (c.switchOff r).severityOf = c.severityOf := by
  funext s
  rw [severityOf, severityOf, severity?_eq, severity?_eq, settingsOf_switchOff]
  split <;> rfl

theorem maxLength_switchOff (c : Config) (r : Rule) : (c.switchOff r).maxLength = c.maxLength := by
  rw [maxLength_eq, maxLength_eq, settingsOf_switchOff]
  split <;> rfl

-- ---------------------------------------------------------------------------
-- Configs that differ in severities alone
-- ---------------------------------------------------------------------------

/-- The two configs set the same but for severities. -/
structure SameButSeverity (c d : Config) : Prop where
  scope    : d.scope = c.scope
  settings : ∀ name, (d.settingsOf name).withoutSeverity = (c.settingsOf name).withoutSeverity

namespace SameButSeverity

theorem isEnabled (h : SameButSeverity c d) (name : String) :
    d.isEnabled name = c.isEnabled name := by
  have hEnabled := congrArg RuleSettings.enabled (h.settings name)
  rw [isEnabled_eq, isEnabled_eq]
  exact congrArg (·.getD true) hEnabled

theorem maxLength (h : SameButSeverity c d) : d.maxLength = c.maxLength := by
  have hOptions := congrArg RuleSettings.options (h.settings Rule.lineLength.name)
  have hOptions' : (d.settingsOf Rule.lineLength.name).options =
      (c.settingsOf Rule.lineLength.name).options := hOptions
  rw [maxLength_eq, maxLength_eq, RuleSettings.natOption, RuleSettings.natOption, hOptions']

end SameButSeverity

-- ---------------------------------------------------------------------------
-- Configs that come to the same for every rule
-- ---------------------------------------------------------------------------

/-- The two configs come to the same for every rule, whatever they look at. -/
structure JudgesAlike (c d : Config) : Prop where
  isEnabled  : ∀ r : Rule, d.isEnabled r.name = c.isEnabled r.name
  severityOf : ∀ r : Rule, d.severityOf r = c.severityOf r
  maxLength  : d.maxLength = c.maxLength

/-- What the settings of all rules come to. -/
def effect (c : Config) : List (Bool × Severity) × Nat :=
  (Rule.all.map fun r => (c.isEnabled r.name, c.severityOf r), c.maxLength)

theorem judgesAlike_of_effect (h : d.effect = c.effect) : c.JudgesAlike d := by
  rw [effect, effect, Prod.mk.injEq] at h
  have hRules := congrFun (Rule.eq_of_map_all_eq h.1)
  exact ⟨fun r => congrArg Prod.fst (hRules r), fun r => congrArg Prod.snd (hRules r), h.2⟩

end Config

end SourceLint
