import SourceLint.Proofs.Extract.Include
import SourceLint.Proofs.Extract.Usage
import SourceLint.Rule.SystemIncludes

/-!
# System includes — what is reported, exactly

`reconcile` compares the headers that a text includes with those that its
symbols need. Each problem is *about* one thing, a used symbol or an included
header, and no thing has two problems. The words of a message tell what it is
about, so no message is reported twice.

* `unknown_mem_reconcile`, `missing_mem_reconcile`, `excess_mem_reconcile`
                             — which problems are reported.
* `about_eq_of_message_eq`   — a message tells what it is about.
* `reconcile_exact`          — the whole report.
-/

namespace SourceLint

variable {k : Knowledge} {text : String}

-- ---------------------------------------------------------------------------
-- Which problems are reported
-- ---------------------------------------------------------------------------

theorem useProblem?_eq_none_iff {included : List String} {use : Mention} :
    useProblem? k included use = none ↔ ∃ h, k.lookup use.name = some h ∧ h ∈ included := by
  unfold useProblem?
  cases hLookup : k.lookup use.name with
  | none => simp
  | some h =>
    by_cases hIncluded : h ∈ included
    · simp [hIncluded]
    · simp [hIncluded]

theorem includeProblem?_eq_none_iff {needed : List String} {inclusion : Mention} :
    includeProblem? needed inclusion = none ↔ inclusion.name ∈ needed := by
  simp [includeProblem?]

theorem mem_neededHeaders {uses : List Mention} {h : String} :
    h ∈ neededHeaders k uses ↔ ∃ use ∈ uses, k.lookup use.name = some h := by
  rw [neededHeaders, List.mem_filterMap]

theorem useProblem?_eq_some_iff {included : List String} {use : Mention} {p : IncludeProblem} :
    useProblem? k included use = some p ↔
      k.lookup use.name = none ∧ p = .unknown use.name use.line ∨
      ∃ h, k.lookup use.name = some h ∧ h ∉ included ∧ p = .missing use.name h use.line := by
  unfold useProblem?
  cases hLookup : k.lookup use.name with
  | none => simp [eq_comm]
  | some h =>
    by_cases hIncluded : h ∈ included
    · simp [hIncluded]
    · simp [hIncluded, eq_comm]

theorem includeProblem?_eq_some_iff {needed : List String} {inclusion : Mention}
    {p : IncludeProblem} :
    includeProblem? needed inclusion = some p ↔
      inclusion.name ∉ needed ∧ p = .excess inclusion.name inclusion.line := by
  unfold includeProblem?
  by_cases hNeeded : inclusion.name ∈ needed
  · simp [hNeeded]
  · simp [hNeeded, eq_comm]

/-- Whatever is reported is the problem of a use or of an include. -/
theorem mem_reconcile_iff {p : IncludeProblem} :
    p ∈ reconcile k text ↔
      (∃ u ∈ usages text, k.lookup u.name = none ∧ p = .unknown u.name u.line ∨
        ∃ h, k.lookup u.name = some h ∧ h ∉ (includes text).map (·.name) ∧
          p = .missing u.name h u.line) ∨
      ∃ i ∈ includes text, i.name ∉ neededHeaders k (usages text) ∧ p = .excess i.name i.line := by
  rw [reconcile, List.mem_append, List.mem_filterMap, List.mem_filterMap]
  simp only [useProblem?_eq_some_iff, includeProblem?_eq_some_iff]

/-- A symbol is reported as unknown where it is used and has no header. -/
theorem unknown_mem_reconcile {s : String} {n : Nat} :
    .unknown s n ∈ reconcile k text ↔ ⟨s, n⟩ ∈ usages text ∧ k.lookup s = none := by
  rw [mem_reconcile_iff]
  constructor
  · intro hReported
    rcases hReported with ⟨u, hUse, hProblem⟩ | ⟨i, -, -, hEq⟩
    · rcases hProblem with ⟨hLookup, hEq⟩ | ⟨h, -, -, hEq⟩
      · cases hEq
        exact ⟨hUse, hLookup⟩
      · cases hEq
    · cases hEq
  · intro hUnknown
    obtain ⟨hUse, hLookup⟩ := hUnknown
    exact Or.inl ⟨⟨s, n⟩, hUse, Or.inl ⟨hLookup, rfl⟩⟩

/-- A symbol is reported with a missing header where it is used and that header
is not included. -/
theorem missing_mem_reconcile {s h : String} {n : Nat} :
    .missing s h n ∈ reconcile k text ↔
      ⟨s, n⟩ ∈ usages text ∧ k.lookup s = some h ∧ h ∉ (includes text).map (·.name) := by
  rw [mem_reconcile_iff]
  constructor
  · intro hReported
    rcases hReported with ⟨u, hUse, hProblem⟩ | ⟨i, -, -, hEq⟩
    · rcases hProblem with ⟨-, hEq⟩ | ⟨h', hLookup, hMissing, hEq⟩
      · cases hEq
      · cases hEq
        exact ⟨hUse, hLookup, hMissing⟩
    · cases hEq
  · intro hNeeded
    obtain ⟨hUse, hLookup, hMissing⟩ := hNeeded
    exact Or.inl ⟨⟨s, n⟩, hUse, Or.inr ⟨h, hLookup, hMissing, rfl⟩⟩

/-- A header is reported as excess where it is included and no used symbol
needs it. -/
theorem excess_mem_reconcile {h : String} {n : Nat} :
    .excess h n ∈ reconcile k text ↔
      ⟨h, n⟩ ∈ includes text ∧ ∀ u ∈ usages text, k.lookup u.name ≠ some h := by
  rw [mem_reconcile_iff]
  constructor
  · intro hReported
    rcases hReported with ⟨u, -, hProblem⟩ | ⟨i, hInclude, hNeeded, hEq⟩
    · rcases hProblem with ⟨-, hEq⟩ | ⟨h', -, -, hEq⟩
      · cases hEq
      · cases hEq
    · cases hEq
      exact ⟨hInclude, fun u hu hLookup => hNeeded (mem_neededHeaders.2 ⟨u, hu, hLookup⟩)⟩
  · intro hUnused
    obtain ⟨hInclude, hUnused⟩ := hUnused
    refine Or.inr ⟨⟨h, n⟩, hInclude, ?_, rfl⟩
    intro hNeeded
    obtain ⟨u, hu, hLookup⟩ := mem_neededHeaders.1 hNeeded
    exact hUnused u hu hLookup

-- ---------------------------------------------------------------------------
-- What a problem is about
-- ---------------------------------------------------------------------------

namespace IncludeProblem

/-- What a problem is about: a used symbol or an included header. -/
def about : IncludeProblem → String ⊕ String
  | .unknown symbol _ => .inl symbol
  | .missing symbol _ _ => .inl symbol
  | .excess header _ => .inr header

/-- What a problem is about has the form of a used symbol or of a header. -/
def WellNamed (p : IncludeProblem) : Prop :=
  match p.about with
  | .inl symbol => IsQualified symbol.toList ∧ ∀ c ∈ symbol.toList, isNameChar c = true
  | .inr header => IsHeaderName header

/-- The first word of a message and what follows behind the space. -/
def messageParts : IncludeProblem → List Char × List Char
  | .unknown symbol _ => ("No".toList, "include mapping for ".toList ++ symbol.toList)
  | .missing symbol header _ => (symbol.toList, "requires include ".toList ++ header.toList)
  | .excess header _ => (header.toList, "included but not required".toList)

theorem toList_message (p : IncludeProblem) :
    p.message.toList = p.messageParts.1 ++ ' ' :: p.messageParts.2 := by
  cases p with
  | unknown symbol line =>
    show ("No include mapping for " ++ symbol).toList = _
    rw [String.toList_append]
    rfl
  | missing symbol header line =>
    show (symbol ++ " requires include " ++ header).toList = _
    rw [String.toList_append, String.toList_append, List.append_assoc]
    rfl
  | excess header line =>
    show (header ++ " included but not required").toList = _
    rw [String.toList_append]
    rfl

theorem space_not_mem_messageParts {p : IncludeProblem} (hNamed : p.WellNamed) :
    ' ' ∉ p.messageParts.1 := by
  intro hSpace
  cases p with
  | unknown symbol line =>
    have hNo : ' ' ∉ "No".toList := by decide
    exact hNo hSpace
  | missing symbol header line => exact absurd (hNamed.2 ' ' hSpace) (by decide)
  | excess header line => exact absurd (hNamed.2 ' ' hSpace) (by decide)

theorem messageParts_eq_of_message_eq {p q : IncludeProblem} (hp : p.WellNamed)
    (hq : q.WellNamed) (hMessage : p.message = q.message) :
    p.messageParts = q.messageParts := by
  have hWord : ∀ r : IncludeProblem, r.WellNamed → ∀ c ∈ r.messageParts.1, (c != ' ') = true := by
    intro r hr c hc
    rw [bne_iff_ne]
    rintro rfl
    exact space_not_mem_messageParts hr hc
  have hChars : p.messageParts.1 ++ ' ' :: p.messageParts.2 =
      q.messageParts.1 ++ ' ' :: q.messageParts.2 := by
    rw [← toList_message, ← toList_message, hMessage]
  -- cut both at the first space
  have hFirst := congrArg (List.takeWhile (· != ' ')) hChars
  have hRest := congrArg (List.dropWhile (· != ' ')) hChars
  rw [List.takeWhile_append_of_pos (hWord p hp), List.takeWhile_append_of_pos (hWord q hq)] at hFirst
  rw [List.dropWhile_append_of_pos (hWord p hp), List.dropWhile_append_of_pos (hWord q hq)] at hRest
  simp only [bne_self_eq_false, Bool.false_eq_true, not_false_eq_true, List.takeWhile_cons_of_neg,
    List.append_nil] at hFirst
  simp only [bne_self_eq_false, Bool.false_eq_true, not_false_eq_true, List.dropWhile_cons_of_neg,
    List.cons.injEq, true_and] at hRest
  exact Prod.ext hFirst hRest

/-- **A message tells what it is about.** -/
theorem about_eq_of_message_eq {p q : IncludeProblem} (hp : p.WellNamed) (hq : q.WellNamed)
    (hMessage : p.message = q.message) : p.about = q.about := by
  have hParts := messageParts_eq_of_message_eq hp hq hMessage
  have hNo : ¬ IsQualified "No".toList := by decide
  cases p with
  | unknown s n =>
    cases q with
    | unknown s' n' =>
      have hSymbol := List.append_cancel_left (congrArg Prod.snd hParts)
      exact congrArg Sum.inl (String.toList_inj.1 hSymbol)
    | missing s' h' n' =>
      have hSymbol : "No".toList = s'.toList := congrArg Prod.fst hParts
      exact absurd (hSymbol ▸ hq.1) hNo
    | excess h' n' =>
      have hRest : "include mapping for ".toList ++ s.toList = "included but not required".toList :=
        congrArg Prod.snd hParts
      exact absurd (congrArg (·[7]?) hRest) (by simp)
  | missing s h n =>
    cases q with
    | unknown s' n' =>
      have hSymbol : s.toList = "No".toList := congrArg Prod.fst hParts
      exact absurd (hSymbol ▸ hp.1) hNo
    | missing s' h' n' =>
      exact congrArg Sum.inl (String.toList_inj.1 (congrArg Prod.fst hParts))
    | excess h' n' =>
      have hRest : "requires include ".toList ++ h.toList = "included but not required".toList :=
        congrArg Prod.snd hParts
      exact absurd (congrArg (·[0]?) hRest) (by simp)
  | excess h n =>
    cases q with
    | unknown s' n' =>
      have hRest : "included but not required".toList = "include mapping for ".toList ++ s'.toList :=
        congrArg Prod.snd hParts
      exact absurd (congrArg (·[7]?) hRest) (by simp)
    | missing s' h' n' =>
      have hRest : "included but not required".toList = "requires include ".toList ++ h'.toList :=
        congrArg Prod.snd hParts
      exact absurd (congrArg (·[0]?) hRest) (by simp)
    | excess h' n' =>
      exact congrArg Sum.inr (String.toList_inj.1 (congrArg Prod.fst hParts))

end IncludeProblem

-- ---------------------------------------------------------------------------
-- The whole report
-- ---------------------------------------------------------------------------

/-- What a report is about has the form that the recognisers give it. -/
theorem wellNamed_of_mem_reconcile {p : IncludeProblem} (hp : p ∈ reconcile k text) :
    p.WellNamed := by
  have hUsed : ∀ m ∈ usages text,
      IsQualified m.name.toList ∧ ∀ c ∈ m.name.toList, isNameChar c = true := by
    intro m hm
    obtain ⟨l, -, hFound⟩ := mem_map_name_mentions.1 (List.mem_map_of_mem hm)
    exact isQualified_of_mem_findAll hFound
  cases p with
  | unknown s n => exact hUsed _ (unknown_mem_reconcile.1 hp).1
  | missing s h n => exact hUsed _ (missing_mem_reconcile.1 hp).1
  | excess h n =>
    have hInclude := List.mem_map_of_mem (f := Mention.name) (excess_mem_reconcile.1 hp).1
    exact (mem_map_name_includes.1 hInclude).1

theorem about_of_useProblem? {included : List String} {m : Mention} {p : IncludeProblem}
    (hp : useProblem? k included m = some p) : p.about = .inl m.name := by
  rcases useProblem?_eq_some_iff.1 hp with ⟨-, rfl⟩ | ⟨h, -, -, rfl⟩
  · rfl
  · rfl

theorem about_of_includeProblem? {needed : List String} {m : Mention} {p : IncludeProblem}
    (hp : includeProblem? needed m = some p) : p.about = .inr m.name := by
  obtain ⟨-, rfl⟩ := includeProblem?_eq_some_iff.1 hp
  rfl

/-- No symbol and no header has two problems. -/
theorem nodup_map_about_reconcile : ((reconcile k text).map IncludeProblem.about).Nodup := by
  have hUses : ((usages text).Pairwise fun m m' => m.name ≠ m'.name) :=
    List.pairwise_map.1 nodup_map_name_mentions
  have hIncludes : ((includes text).Pairwise fun m m' => m.name ≠ m'.name) :=
    List.pairwise_map.1 nodup_map_name_mentions
  show List.Pairwise (· ≠ ·) _
  rw [List.pairwise_map, reconcile, List.pairwise_append, List.pairwise_filterMap,
    List.pairwise_filterMap]
  refine ⟨hUses.imp ?_, hIncludes.imp ?_, ?_⟩
  · intro m m' hName p hp q hq hAbout
    rw [about_of_useProblem? hp, about_of_useProblem? hq] at hAbout
    exact hName (Sum.inl.inj hAbout)
  · intro m m' hName p hp q hq hAbout
    rw [about_of_includeProblem? hp, about_of_includeProblem? hq] at hAbout
    exact hName (Sum.inr.inj hAbout)
  · intro p hp q hq hAbout
    obtain ⟨m, -, hUse⟩ := List.mem_filterMap.1 hp
    obtain ⟨m', -, hInclude⟩ := List.mem_filterMap.1 hq
    rw [about_of_useProblem? hUse, about_of_includeProblem? hInclude] at hAbout
    exact Sum.inl_ne_inr hAbout

/-- No message is reported twice. -/
theorem nodup_map_message_reconcile : ((reconcile k text).map IncludeProblem.message).Nodup := by
  have hAbout : ((reconcile k text).Pairwise fun p q => p.about ≠ q.about) :=
    List.pairwise_map.1 nodup_map_about_reconcile
  show List.Pairwise (· ≠ ·) _
  rw [List.pairwise_map]
  refine hAbout.imp_of_mem ?_
  intro p q hp hq hDifferent hMessage
  exact hDifferent (IncludeProblem.about_eq_of_message_eq (wellNamed_of_mem_reconcile hp)
    (wellNamed_of_mem_reconcile hq) hMessage)

theorem reconcileOutcome_eq_success {problems : List IncludeProblem} :
    reconcileOutcome problems = .success ↔ problems = [] := by
  unfold reconcileOutcome
  rw [← List.isEmpty_iff]
  cases problems.isEmpty <;> simp

/-- A text passes exactly if its symbols are known and need the headers that
it includes. -/
theorem reconcileOutcome_eq_success_iff :
    reconcileOutcome (reconcile k text) = .success ↔
      (∀ u ∈ usages text, ∃ h, k.lookup u.name = some h) ∧
      ∀ h, h ∈ (includes text).map (·.name) ↔ ∃ u ∈ usages text, k.lookup u.name = some h := by
  rw [reconcileOutcome_eq_success, reconcile, List.append_eq_nil_iff, List.filterMap_eq_nil_iff,
    List.filterMap_eq_nil_iff]
  simp only [useProblem?_eq_none_iff, includeProblem?_eq_none_iff, mem_neededHeaders]
  constructor
  · intro hNothing
    obtain ⟨hUses, hIncludes⟩ := hNothing
    refine ⟨fun u hu => ?_, fun h => ⟨fun hh => ?_, ?_⟩⟩
    · obtain ⟨h, hLookup, -⟩ := hUses u hu
      exact ⟨h, hLookup⟩
    · obtain ⟨m, hm, rfl⟩ := List.mem_map.1 hh
      exact hIncludes m hm
    · intro hUse
      obtain ⟨u, hu, hLookup⟩ := hUse
      obtain ⟨h', hLookup', hIncluded⟩ := hUses u hu
      rw [hLookup, Option.some.injEq] at hLookup'
      exact hLookup' ▸ hIncluded
  · intro hExact
    obtain ⟨hKnown, hSame⟩ := hExact
    refine ⟨fun u hu => ?_, fun m hm => (hSame m.name).1 (List.mem_map_of_mem hm)⟩
    obtain ⟨h, hLookup⟩ := hKnown u hu
    exact ⟨h, hLookup, (hSame h).2 ⟨u, hu, hLookup⟩⟩

/--
**The report, exactly.** First the used symbols in order: those without a
header as unknown, those whose header is not included as missing it. Then the
included headers in order that no used symbol needs. No message is reported
twice, and the text passes if and only if every used symbol is known and the
included headers are those that the symbols need.
-/
theorem reconcile_exact (k : Knowledge) (text : String) :
    reconcile k text =
      ((usages text).flatMap fun u =>
        match k.lookup u.name with
        | none => [.unknown u.name u.line]
        | some h =>
          if h ∈ (includes text).map (·.name) then [] else [.missing u.name h u.line]) ++
      ((includes text).filter fun i => ∀ u ∈ usages text, k.lookup u.name ≠ some i.name).map
        (fun i => .excess i.name i.line) ∧
    ((reconcile k text).map IncludeProblem.message).Nodup ∧
    (reconcileOutcome (reconcile k text) = .success ↔
      (∀ u ∈ usages text, ∃ h, k.lookup u.name = some h) ∧
      ∀ h, h ∈ (includes text).map (·.name) ↔
        ∃ u ∈ usages text, k.lookup u.name = some h) := by
  refine ⟨?_, nodup_map_message_reconcile, reconcileOutcome_eq_success_iff⟩
  rw [reconcile]
  congr 1
  · rw [List.filterMap_eq_flatMap_toList]
    congr 1
    funext u
    unfold useProblem?
    cases k.lookup u.name with
    | none => rfl
    | some h =>
      by_cases hIncluded : h ∈ (includes text).map (·.name)
      · simp only [hIncluded, if_true]
        rfl
      · simp only [hIncluded, if_false]
        rfl
  · rw [← List.filterMap_eq_map, List.filterMap_filter]
    apply List.filterMap_congr
    intro i _
    unfold includeProblem?
    by_cases hNeeded : i.name ∈ neededHeaders k (usages text)
    · have hSome : ¬ ∀ u ∈ usages text, k.lookup u.name ≠ some i.name := by
        obtain ⟨u, hu, hLookup⟩ := mem_neededHeaders.1 hNeeded
        exact fun hAll => hAll u hu hLookup
      rw [if_pos hNeeded, if_neg (by rwa [decide_eq_true_eq])]
    · have hAll : ∀ u ∈ usages text, k.lookup u.name ≠ some i.name := fun u hu hLookup =>
        hNeeded (mem_neededHeaders.2 ⟨u, hu, hLookup⟩)
      rw [if_neg hNeeded, if_pos (by rwa [decide_eq_true_eq])]
      rfl

end SourceLint
