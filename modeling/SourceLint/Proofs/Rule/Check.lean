import SourceLint.Rule.Check

/-!
# What a rule puts on its findings

A rule finds lines with something to say about them, and puts its name, its
severity and the file on each. What it finds does not depend on a severity
(`check_eq_map_findings`), so a severity can be set without a change to what is
found, and the name on a violation tells the rule that found it.

* `check_eq_map_findings`  — findings, and what is put on them.
* `rule_of_mem_check`      — the name on a violation.
* `name_injective`         — names tell rules apart.
-/

namespace SourceLint.Rule

variable {context : Context} {file : SourceFile} {r s : Rule} {v : Violation}

theorem mem_all (r : Rule) : r ∈ all := by
  cases r <;> decide

theorem mem_inOrder (r : Rule) : r ∈ inOrder := by
  cases r <;> decide

/-- What is the same all along the list of rules is the same for every rule. -/
theorem eq_of_map_all_eq {α : Type} {f g : Rule → α} (h : all.map f = all.map g) : f = g :=
  funext fun r => List.map_inj_left.1 h r r.mem_all

theorem name_injective : Function.Injective name := by
  intro r s h
  cases r <;> cases s <;> first | rfl | exact absurd h (by decide)

theorem name_eq_iff : s.name = r.name ↔ s = r :=
  ⟨fun h => name_injective h, congrArg name⟩

/-- **A rule puts its name, its severity and the file on what it finds**, and
finds the same whatever the severities are. -/
theorem check_eq_map_findings (knowledge : Knowledge) (maxLength : Nat) (file : SourceFile)
    (r : Rule) :
    ∃ findings : List (Nat × String), ∀ severity : Rule → Severity,
      check ⟨knowledge, maxLength, severity⟩ file r =
        findings.map fun f => r.violation (severity r) file f.1 f.2 := by
  -- whatever severity the findings are read with
  refine ⟨(check ⟨knowledge, maxLength, fun _ => .error⟩ file r).map fun v =>
    (v.location.line, v.message), fun severity => ?_⟩
  rw [List.map_map]
  cases r with
  | headerGuard =>
    rw [check, check, checkHeaderGuard, checkHeaderGuard]
    split <;> rfl
  | testGroup =>
    rw [check, check, checkTestGroup, checkTestGroup]
    split
    · rw [List.map_map]
      rfl
    · rfl
  | systemIncludes =>
    rw [check, check, checkSystemIncludes, checkSystemIncludes, List.map_map]
    rfl
  | lineLength =>
    rw [check, check, checkLineLength, checkLineLength, List.map_map]
    rfl

theorem exists_finding_of_mem_check (hv : v ∈ check context file r) :
    ∃ f : Nat × String, v = r.violation (context.severity r) file f.1 f.2 := by
  obtain ⟨findings, hFindings⟩ :=
    check_eq_map_findings context.knowledge context.maxLength file r
  rw [hFindings context.severity] at hv
  obtain ⟨f, -, rfl⟩ := List.mem_map.1 hv
  exact ⟨f, rfl⟩

/-- The name on a violation is that of the rule that found it. -/
theorem rule_of_mem_check (hv : v ∈ check context file r) : v.rule = r.name := by
  obtain ⟨f, rfl⟩ := exists_finding_of_mem_check hv
  rfl

/-- The severity of a violation is that of the rule that found it. -/
theorem severity_of_mem_check (hv : v ∈ check context file r) :
    v.severity = context.severity r := by
  obtain ⟨f, rfl⟩ := exists_finding_of_mem_check hv
  rfl

end SourceLint.Rule
