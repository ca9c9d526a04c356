import SourceLint.Config.Decode
import SourceLint.Proofs.Config.Settings
import SourceLint.Proofs.Traverse

/-!
# What a document says of a rule

The settings of a rule are read from the table of its name, and what they come
to is read from three of its keys. So it is told by the document alone: a rule
is enabled unless its table says `enabled = false`, its severity is the one that
is given, and the greatest length of a line is the natural number under `max`
in the table of that one rule. All else in the tables may be anything.

* `settingsOf_of_ofDocument`  — the settings of a rule, from its table.
* `isEnabled_of_ofDocument`, `severityOf_of_ofDocument`,
  `maxLength_of_ofDocument`   — what they come to, from three keys.
* `judgesAlike_of_sameSay`    — documents that say the same of every rule.
-/

namespace SourceLint.Config

variable {document : Toml.Value} {c : Config} {name key : String} {v : Toml.Value}
  {s : RuleSettings}

-- ---------------------------------------------------------------------------
-- What a document says
-- ---------------------------------------------------------------------------

/-- The value under a key in the table of a rule. -/
def ruleValue? (document : Toml.Value) (name key : String) : Option Toml.Value :=
  ((document.get? "rules").bind (·.get? name)).bind (·.get? key)

/-- The rule is not switched off. -/
def enabledIn (document : Toml.Value) (r : Rule) : Bool :=
  match ruleValue? document r.name "enabled" with
  | some (.boolean b) => b
  | _ => true

/-- The severity that is given for the rule, or else an error. -/
def severityIn (document : Toml.Value) (r : Rule) : Severity :=
  ((ruleValue? document r.name "severity").bind asSeverity?).getD .error

/-- The value as a natural number; one of another kind or sign does not count. -/
def natOf (v? : Option Toml.Value) (default : Nat) : Nat :=
  match v? with
  | some (.integer n) => if 0 ≤ n then n.toNat else default
  | _ => default

/-- The greatest length of a line. -/
def limitIn (document : Toml.Value) : Nat :=
  natOf (ruleValue? document Rule.lineLength.name "max") 140

/-- What a document says of all rules. -/
def effectIn (document : Toml.Value) : List (Bool × Severity) × Nat :=
  (Rule.all.map fun r => (enabledIn document r, severityIn document r), limitIn document)

/-- The documents say the same of every rule. -/
structure SameSay (document other : Toml.Value) : Prop where
  enabled  : ∀ r : Rule, enabledIn other r = enabledIn document r
  severity : ∀ r : Rule, severityIn other r = severityIn document r
  limit    : limitIn other = limitIn document

theorem sameSay_of_effectIn {other : Toml.Value} (h : effectIn other = effectIn document) :
    SameSay document other := by
  rw [effectIn, effectIn, Prod.mk.injEq] at h
  have hRules := congrFun (Rule.eq_of_map_all_eq h.1)
  exact ⟨fun r => congrArg Prod.fst (hRules r), fun r => congrArg Prod.snd (hRules r), h.2⟩

-- ---------------------------------------------------------------------------
-- Tables
-- ---------------------------------------------------------------------------

/-- A date has no entries but its own. -/
theorem lookup_of_asEntries? {entries : List (String × Toml.Value)}
    (h : asEntries? v = some entries) (hKey : key ≠ dateKey) : entries.lookup key = v.get? key := by
  cases v with
  | table es =>
    cases h
    rfl
  | dateTime d =>
    cases h
    rw [List.lookup_cons, beq_false_of_ne hKey]
    rfl
  | _ => cases h

/-- What a value is converted to, if there is one. -/
theorem convert_eq_ok {α : Type} {f : Toml.Value → Option α} {v? : Option Toml.Value} {a : Option α}
    (h : convert key (fun v => (f v).map some) none v? = .ok a) : a = v?.bind f := by
  cases v? with
  | none =>
    cases h
    rfl
  | some v =>
    rw [convert] at h
    cases hf : f v with
    | none => rw [hf] at h; cases h
    | some b =>
      rw [hf] at h
      cases h
      exact hf.symm

/-- An option is a conversion of what stands under its key. -/
theorem lookup_asOptions? {entries options : List (String × Toml.Value)}
    (h : asOptions? entries = some options) (key : String) :
    options.lookup key = (entries.lookup key).bind asOption? := by
  induction entries generalizing options with
  | nil =>
    cases h
    rfl
  | cons e entries ih =>
    obtain ⟨k, v⟩ := e
    rw [asOptions?] at h
    obtain ⟨w, hValue, h⟩ := Option.bind_eq_some_iff.1 h
    obtain ⟨rest, hRest, h⟩ := Option.bind_eq_some_iff.1 h
    cases h
    rw [List.lookup_cons, List.lookup_cons]
    cases key == k with
    | true => exact hValue.symm
    | false => exact ih hRest

/-- Conversion neither makes nor loses a number. -/
theorem natOf_asOption? (v? : Option Toml.Value) (default : Nat) :
    natOf (v?.bind asOption?) default = natOf v? default := by
  cases v? with
  | none => rfl
  | some v =>
    cases v with
    | string | integer | float | boolean | dateTime => simp only [Option.bind_some, asOption?]
    | array vs =>
      rw [Option.bind_some, asOption?]
      cases asElements? vs <;> rfl
    | table entries =>
      cases entries with
      | nil => rw [Option.bind_some, asOption?]
      | cons e rest =>
        obtain ⟨k, v⟩ := e
        rw [Option.bind_some, asOption?]
        split
        case isTrue =>
          rw [asDate?.eq_def]
          split
          · cases Toml.DateTime.read? _ <;> rfl
          · rfl
        case isFalse => cases asOption? v <;> cases asOptions? rest <;> rfl

/-- The settings of a rule are read from three keys of its table. -/
theorem asRuleSettings_eq_ok (h : asRuleSettings name v = .ok s) :
    s.enabled = (v.get? "enabled").bind asBool? ∧
      s.severity = (v.get? "severity").bind asSeverity? ∧
      s.natOption "max" 140 = natOf (v.get? "max") 140 := by
  rw [asRuleSettings] at h
  cases hEntries : asEntries? v with
  | none => rw [hEntries] at h; cases h
  | some entries =>
    simp only [hEntries] at h
    obtain ⟨enabled, hEnabled, h⟩ := exists_of_bind_eq_ok h
    obtain ⟨severity, hSeverity, h⟩ := exists_of_bind_eq_ok h
    rw [lookup_of_asEntries? hEntries (by decide)] at hEnabled hSeverity
    cases hOptions : asOptions? (entries.filter fun e => e.1 ≠ "enabled" ∧ e.1 ≠ "severity") with
    | none => rw [hOptions] at h; cases h
    | some options =>
      rw [hOptions] at h
      cases h
      have hMax := lookup_asOptions? hOptions "max"
      rw [lookup_filter (by simp), lookup_of_asEntries? hEntries (by decide)] at hMax
      refine ⟨convert_eq_ok hEnabled, convert_eq_ok hSeverity, ?_⟩
      rw [← natOf_asOption?, ← hMax]
      rfl

-- ---------------------------------------------------------------------------
-- The tables of the rules
-- ---------------------------------------------------------------------------

/-- The settings of the rules are those of their tables. -/
theorem lookup_of_mapM_asRuleSettings {entries : List (String × Toml.Value)}
    {rules : List (String × RuleSettings)}
    (h : (entries.mapM fun (name, v) => do .ok (name, ← asRuleSettings name v)) = .ok rules)
    (name : String) :
    (entries.lookup name = none ∧ rules.lookup name = none) ∨
      ∃ v s, entries.lookup name = some v ∧ asRuleSettings name v = .ok s ∧
        rules.lookup name = some s := by
  induction entries generalizing rules with
  | nil =>
    cases h
    exact Or.inl ⟨rfl, rfl⟩
  | cons e entries ih =>
    obtain ⟨k, v⟩ := e
    obtain ⟨r, rest, hFirst, hRest, rfl⟩ := mapM_cons_eq_ok h
    obtain ⟨s, hSettings, hPair⟩ := exists_of_bind_eq_ok hFirst
    cases hPair
    simp only [List.lookup_cons]
    by_cases hName : name = k
    · subst hName
      simp only [beq_self_eq_true]
      exact Or.inr ⟨v, s, rfl, hSettings, rfl⟩
    · simp only [beq_false_of_ne hName]
      exact ih hRest

theorem ofDocument_eq (document : Toml.Value) :
    ofDocument document =
      ((document.get? "analyzer").elim (.ok {}) asScope >>= fun scope =>
        (document.get? "rules").elim (.ok []) asRules >>= fun rules => .ok { scope, rules }) := by
  rw [ofDocument]
  cases document.get? "analyzer" <;> cases document.get? "rules" <;> rfl

/-- The settings of a rule are those of its table, if the document has one. -/
theorem settingsOf_of_ofDocument (h : ofDocument document = .ok c) (name : String) :
    ((document.get? "rules").bind (·.get? name) = none ∧ c.settingsOf name = {}) ∨
      ∃ v, (document.get? "rules").bind (·.get? name) = some v ∧
        asRuleSettings name v = .ok (c.settingsOf name) := by
  rw [ofDocument_eq] at h
  obtain ⟨scope, -, h⟩ := exists_of_bind_eq_ok h
  obtain ⟨rules, hRules, h⟩ := exists_of_bind_eq_ok h
  cases h
  cases hTable : document.get? "rules" with
  | none =>
    rw [hTable] at hRules
    cases hRules
    exact Or.inl ⟨rfl, rfl⟩
  | some v =>
    rw [hTable, Option.elim_some] at hRules
    cases v with
    | table entries =>
      rw [asRules] at hRules
      rcases lookup_of_mapM_asRuleSettings hRules name with ⟨hNone, hLookup⟩ |
        ⟨v, s, hSome, hSettings, hLookup⟩
      · exact Or.inl ⟨hNone, by rw [settingsOf, rule?, hLookup]; rfl⟩
      · exact Or.inr ⟨v, hSome, by rw [settingsOf, rule?, hLookup]; exact hSettings⟩
    | _ => cases hRules

/-- What is set for a rule is read from three keys of its table. -/
theorem settingsOf_spec (h : ofDocument document = .ok c) (name : String) :
    (c.settingsOf name).enabled = (ruleValue? document name "enabled").bind asBool? ∧
      (c.settingsOf name).severity = (ruleValue? document name "severity").bind asSeverity? ∧
      (c.settingsOf name).natOption "max" 140 = natOf (ruleValue? document name "max") 140 := by
  rcases settingsOf_of_ofDocument h name with ⟨hNone, hSettings⟩ | ⟨v, hSome, hSettings⟩
  · simp only [ruleValue?, hNone, hSettings]
    exact ⟨rfl, rfl, rfl⟩
  · simp only [ruleValue?, hSome]
    exact asRuleSettings_eq_ok hSettings

section OfDocument

variable (h : ofDocument document = .ok c)

include h

theorem isEnabled_of_ofDocument (r : Rule) : c.isEnabled r.name = enabledIn document r := by
  rw [isEnabled_eq, (settingsOf_spec h r.name).1, enabledIn]
  cases ruleValue? document r.name "enabled" with
  | none => rfl
  | some v => cases v <;> rfl

theorem severityOf_of_ofDocument (r : Rule) : c.severityOf r = severityIn document r := by
  rw [severityOf, severity?_eq, (settingsOf_spec h r.name).2.1, severityIn]

theorem maxLength_of_ofDocument : c.maxLength = limitIn document := by
  rw [maxLength_eq]
  exact (settingsOf_spec h Rule.lineLength.name).2.2

end OfDocument

/-- **Documents that say the same of every rule make configs that judge
alike**, whatever else stands in their tables. -/
theorem judgesAlike_of_sameSay {other : Toml.Value} {d : Config} (h : ofDocument document = .ok c)
    (hOther : ofDocument other = .ok d) (hSame : SameSay document other) : c.JudgesAlike d where
  isEnabled r := by rw [isEnabled_of_ofDocument h, isEnabled_of_ofDocument hOther, hSame.enabled]
  severityOf r := by
    rw [severityOf_of_ofDocument h, severityOf_of_ofDocument hOther, hSame.severity]
  maxLength := by rw [maxLength_of_ofDocument h, maxLength_of_ofDocument hOther, hSame.limit]

end SourceLint.Config
