import SourceLint.Proofs.Rule.SystemIncludes

/-!
# Repair — what a report asks for is enough

A report on the includes of a text names headers to add and headers to remove.
Adding an include line for each of the first, in any order, and deleting the
include lines of the others leaves nothing to report but the unknown symbols:
the edits touch no used symbol, and they make the included headers those that
the symbols need.

The include lines to delete have to hold nothing else: a line that also uses a
symbol cannot be deleted without changing what the text needs.

* `map_name_usages_amend`        — the edits touch no used symbol.
* `mem_map_name_includes_repair` — what is included after the edits.
* `reconcile_amend`              — what is reported after the edits.
-/

namespace SourceLint

-- ---------------------------------------------------------------------------
-- What a report says
-- ---------------------------------------------------------------------------

namespace IncludeProblem

/-- The header that the problem asks to add. -/
def missingHeader? : IncludeProblem → Option String
  | .missing _ header _ => some header
  | _ => none

/-- The header that the problem asks to remove. -/
def excessHeader? : IncludeProblem → Option String
  | .excess header _ => some header
  | _ => none

/-- The problem is a symbol without a known header. -/
def isUnknown : IncludeProblem → Bool
  | .unknown _ _ => true
  | _ => false

/-- The problem wherever it stands: its line is taken away. -/
def withoutLine : IncludeProblem → IncludeProblem
  | .unknown symbol _ => .unknown symbol 0
  | .missing symbol header _ => .missing symbol header 0
  | .excess header _ => .excess header 0

end IncludeProblem

/-- The headers that are reported as missing, each once. -/
def missingHeaders (problems : List IncludeProblem) : List String :=
  distinctOn id (problems.filterMap IncludeProblem.missingHeader?)

/-- The headers that are reported as excess. -/
def excessHeaders (problems : List IncludeProblem) : List String :=
  problems.filterMap IncludeProblem.excessHeader?

variable {k : Knowledge} {text : String}

theorem mem_missingHeaders_reconcile {h : String} :
    h ∈ missingHeaders (reconcile k text) ↔
      h ∉ (includes text).map (·.name) ∧ h ∈ neededHeaders k (usages text) := by
  rw [missingHeaders, mem_distinctOn_id, List.mem_filterMap, mem_neededHeaders]
  constructor
  · intro hReported
    obtain ⟨p, hp, hHeader⟩ := hReported
    cases p with
    | unknown s n => simp [IncludeProblem.missingHeader?] at hHeader
    | missing s h' n =>
      obtain rfl : h' = h := Option.some.inj hHeader
      obtain ⟨hUse, hLookup, hMissing⟩ := missing_mem_reconcile.1 hp
      exact ⟨hMissing, _, hUse, hLookup⟩
    | excess h' n => simp [IncludeProblem.missingHeader?] at hHeader
  · intro hNeeded
    obtain ⟨hMissing, u, hu, hLookup⟩ := hNeeded
    exact ⟨.missing u.name h u.line, missing_mem_reconcile.2 ⟨hu, hLookup, hMissing⟩, rfl⟩

theorem mem_excessHeaders_reconcile {h : String} :
    h ∈ excessHeaders (reconcile k text) ↔
      h ∈ (includes text).map (·.name) ∧ h ∉ neededHeaders k (usages text) := by
  have hNotNeeded : h ∉ neededHeaders k (usages text) ↔
      ∀ u ∈ usages text, k.lookup u.name ≠ some h := by
    rw [mem_neededHeaders]
    simp only [not_exists, not_and, ne_eq]
  rw [excessHeaders, List.mem_filterMap, hNotNeeded]
  constructor
  · intro hReported
    obtain ⟨p, hp, hHeader⟩ := hReported
    cases p with
    | unknown s n => simp [IncludeProblem.excessHeader?] at hHeader
    | missing s h' n => simp [IncludeProblem.excessHeader?] at hHeader
    | excess h' n =>
      obtain rfl : h' = h := Option.some.inj hHeader
      obtain ⟨hInclude, hUnused⟩ := excess_mem_reconcile.1 hp
      exact ⟨List.mem_map_of_mem hInclude, hUnused⟩
  · intro hIncluded
    obtain ⟨hInclude, hUnused⟩ := hIncluded
    obtain ⟨m, hm, rfl⟩ := List.mem_map.1 hInclude
    exact ⟨.excess m.name m.line, excess_mem_reconcile.2 ⟨hm, hUnused⟩, rfl⟩

/-- No problem of an include is an unknown symbol. -/
theorem filter_isUnknown_includeProblems (needed : List String) (inclusions : List Mention) :
    (inclusions.filterMap (includeProblem? needed)).filter IncludeProblem.isUnknown = [] := by
  rw [List.filter_eq_nil_iff]
  intro p hp
  obtain ⟨m, -, hProblem⟩ := List.mem_filterMap.1 hp
  obtain ⟨-, rfl⟩ := includeProblem?_eq_some_iff.1 hProblem
  exact Bool.false_ne_true

/-- The unknown symbols among the uses, whatever is included. -/
theorem map_withoutLine_unknown_uses (included : List String) (uses : List Mention) :
    ((uses.filterMap (useProblem? k included)).filter IncludeProblem.isUnknown).map
        IncludeProblem.withoutLine =
      ((uses.map (·.name)).filter fun s => k.lookup s = none).map (.unknown · 0) := by
  induction uses with
  | nil => rfl
  | cons u uses ih =>
    rw [List.filterMap_cons, List.map_cons, List.filter_cons]
    cases hLookup : k.lookup u.name with
    | none =>
      have hProblem : useProblem? k included u = some (.unknown u.name u.line) :=
        useProblem?_eq_some_iff.2 (Or.inl ⟨hLookup, rfl⟩)
      rw [hProblem]
      simp only [decide_true, if_true]
      rw [List.filter_cons_of_pos rfl, List.map_cons, List.map_cons, ih]
      rfl
    | some h =>
      by_cases hIncluded : h ∈ included
      · have hProblem : useProblem? k included u = none :=
          useProblem?_eq_none_iff.2 ⟨h, hLookup, hIncluded⟩
        rw [hProblem]
        simpa using ih
      · have hProblem : useProblem? k included u = some (.missing u.name h u.line) :=
          useProblem?_eq_some_iff.2 (Or.inr ⟨h, hLookup, hIncluded, rfl⟩)
        rw [hProblem]
        simpa [IncludeProblem.isUnknown] using ih

/-- The unknown symbols of a report, lines aside, can be read off the names of
the used symbols. -/
theorem map_withoutLine_unknown :
    ((reconcile k text).filter IncludeProblem.isUnknown).map IncludeProblem.withoutLine =
      (((usages text).map (·.name)).filter fun s => k.lookup s = none).map (.unknown · 0) := by
  rw [reconcile, List.filter_append, filter_isUnknown_includeProblems, List.append_nil,
    map_withoutLine_unknown_uses]

-- ---------------------------------------------------------------------------
-- The edits
-- ---------------------------------------------------------------------------

/-- The lines of a text that are not the include line of one of the headers. -/
def keptLines (removed : List String) (text : String) : List (List Char) :=
  (Text.lines text.toList).filter (· ∉ removed.map includeDirective)

/-- The text with an include line for each added header in front and without
the include lines of the removed headers. -/
def amend (added removed : List String) (text : String) : String :=
  String.ofList (Text.terminated (added.map includeDirective ++ keptLines removed text))

/-- Lines in which nothing is found may be left out. -/
theorem flatMap_filter_of_nil {α β : Type} {p : α → Bool} {f : α → List β} {as : List α}
    (hNil : ∀ a ∈ as, ¬ p a = true → f a = []) : (as.filter p).flatMap f = as.flatMap f := by
  induction as with
  | nil => rfl
  | cons a as ih =>
    have hRest := ih fun b hb => hNil b (List.mem_cons_of_mem _ hb)
    by_cases h : p a = true
    · rw [List.filter_cons_of_pos h, List.flatMap_cons, List.flatMap_cons, hRest]
    · rw [List.filter_cons_of_neg h, List.flatMap_cons, hNil a (List.mem_cons_self ..) h, hRest,
        List.nil_append]

section Amend

variable {added removed : List String}

theorem mem_keptLines {l : List Char} :
    l ∈ keptLines removed text ↔
      l ∈ Text.lines text.toList ∧ ∀ x ∈ removed, l ≠ includeDirective x := by
  rw [keptLines, List.mem_filter, decide_eq_true_eq, List.mem_map]
  simp [eq_comm]

/-- A directive uses no symbol, as it has no colon. -/
theorem findAll_qualifiedSymbol_directive {h : String} (hHeader : IsHeaderName h) :
    Text.findAll qualifiedSymbol (includeDirective h) = [] :=
  findAll_qualifiedSymbol_eq_nil (not_mem_includeDirective hHeader (by decide) (by decide))

/-- A directive includes its header only. -/
theorem findAll_systemInclude_directive {h : String} (hHeader : IsHeaderName h) :
    Text.findAll systemInclude (includeDirective h) = [h] := by
  obtain ⟨rest, hDirective⟩ := includeDirective_eq_cons h
  have hFind : systemInclude (includeDirective h) = some (h, (includeDirective h).length) :=
    systemInclude_eq_some_iff.2 ⟨hHeader, List.prefix_rfl, rfl⟩
  rw [hDirective] at hFind ⊢
  rw [Text.findAll_cons_of_some hFind, List.length_cons, Nat.add_sub_cancel, List.drop_length]
  rfl

/-- No line of the amended text was written with a line break in it. -/
theorem newline_not_mem_amended (hAdded : ∀ h ∈ added, IsHeaderName h) :
    ∀ l ∈ added.map includeDirective ++ keptLines removed text, '\n' ∉ l := by
  intro l hl
  rcases List.mem_append.1 hl with hDirective | hKept
  · obtain ⟨h, hh, rfl⟩ := List.mem_map.1 hDirective
    exact not_mem_includeDirective (hAdded h hh) (by decide) (by decide)
  · exact Text.newline_not_mem (mem_keptLines.1 hKept).1

/-- **The edits touch no used symbol.** -/
theorem map_name_usages_amend (hAdded : ∀ h ∈ added, IsHeaderName h)
    (hRemoved : ∀ x ∈ removed, IsHeaderName x) :
    (usages (amend added removed text)).map (·.name) = (usages text).map (·.name) := by
  have hFront : (added.map includeDirective).flatMap (Text.findAll qualifiedSymbol) = [] := by
    rw [List.flatMap_eq_nil_iff]
    intro l hl
    obtain ⟨h, hh, rfl⟩ := List.mem_map.1 hl
    exact findAll_qualifiedSymbol_directive (hAdded h hh)
  have hKept : (keptLines removed text).flatMap (Text.findAll qualifiedSymbol) =
      (Text.lines text.toList).flatMap (Text.findAll qualifiedSymbol) := by
    rw [keptLines]
    apply flatMap_filter_of_nil
    intro l _ hDropped
    rw [decide_eq_true_eq, not_not] at hDropped
    obtain ⟨x, hx, rfl⟩ := List.mem_map.1 hDropped
    exact findAll_qualifiedSymbol_directive (hRemoved x hx)
  rw [usages, usages, map_name_mentions, map_name_mentions, amend, String.toList_ofList,
    flatMap_findAll_terminated (newline_not_mem_amended hAdded)
      (qualifiedSymbol_ignores (by decide)) rfl,
    List.flatMap_append, hFront, hKept, List.nil_append]

/-- **What is included after the edits**: the added headers, and those of the
text that were not removed. -/
theorem mem_map_name_includes_amend (hAdded : ∀ h ∈ added, IsHeaderName h)
    (hRemoved : ∀ x ∈ removed, IsHeaderName x)
    (hAlone : ∀ x ∈ removed, ∀ l ∈ Text.lines text.toList,
      includeDirective x <:+: l → l = includeDirective x) {h : String} :
    h ∈ (includes (amend added removed text)).map (·.name) ↔
      h ∈ added ∨ h ∈ (includes text).map (·.name) ∧ h ∉ removed := by
  have hLines : h ∈ (includes (amend added removed text)).map (·.name) ↔
      ∃ l ∈ added.map includeDirective ++ keptLines removed text,
        h ∈ Text.findAll systemInclude l := by
    rw [includes, map_name_mentions, amend, String.toList_ofList,
      flatMap_findAll_terminated (newline_not_mem_amended hAdded)
        (systemInclude_ignores (by decide) (by decide)) rfl,
      mem_distinctOn_id, List.mem_flatMap]
  rw [hLines, mem_map_name_includes]
  constructor
  · intro hFoundIn
    obtain ⟨l, hl, hFound⟩ := hFoundIn
    rcases List.mem_append.1 hl with hDirective | hKept
    · obtain ⟨a, ha, rfl⟩ := List.mem_map.1 hDirective
      rw [findAll_systemInclude_directive (hAdded a ha), List.mem_singleton] at hFound
      exact Or.inl (hFound ▸ ha)
    · obtain ⟨hHeader, hInfix⟩ := mem_findAll_systemInclude.1 hFound
      obtain ⟨hLine, hDifferent⟩ := mem_keptLines.1 hKept
      -- a removed header stands alone in its lines, and those are gone
      exact Or.inr ⟨⟨hHeader, l, hLine, hInfix⟩, fun hx =>
        hDifferent h hx (hAlone h hx l hLine hInfix)⟩
  · rintro (ha | ⟨⟨hHeader, l, hLine, hInfix⟩, hx⟩)
    · refine ⟨includeDirective h, List.mem_append_left _ (List.mem_map_of_mem ha), ?_⟩
      rw [findAll_systemInclude_directive (hAdded h ha)]
      exact List.mem_singleton_self h
    · have hFound : h ∈ Text.findAll systemInclude l :=
        mem_findAll_systemInclude.2 ⟨hHeader, hInfix⟩
      refine ⟨l, List.mem_append_right _ (mem_keptLines.2 ⟨hLine, ?_⟩), hFound⟩
      -- the line of a removed header includes no other
      rintro x hRemovedLine rfl
      rw [findAll_systemInclude_directive (hRemoved x hRemovedLine), List.mem_singleton] at hFound
      exact hx (hFound ▸ hRemovedLine)

end Amend

-- ---------------------------------------------------------------------------
-- The report after the edits
-- ---------------------------------------------------------------------------

/-- The header of a symbol is one of the headers of the knowledge. -/
theorem lookup_mem_headers {s h : String} (hLookup : k.lookup s = some h) : h ∈ k.headers := by
  rw [Knowledge.lookup, List.lookup_eq_some_iff] at hLookup
  obtain ⟨before, after, hEntries, -⟩ := hLookup
  rw [Knowledge.headers, (sortBy_perm _).mem_iff, mem_distinctOn_id, hEntries]
  simp

/-- The needed headers depend on the names of the used symbols only. -/
theorem neededHeaders_eq_filterMap (uses : List Mention) :
    neededHeaders k uses = (uses.map (·.name)).filterMap k.lookup := by
  rw [neededHeaders, List.filterMap_map]
  rfl

/-- Only unknown symbols are reported where the included headers are those that
the symbols need. -/
theorem isUnknown_of_mem_reconcile
    (hSame : ∀ h, h ∈ (includes text).map (·.name) ↔ h ∈ neededHeaders k (usages text))
    {p : IncludeProblem} (hp : p ∈ reconcile k text) : p.isUnknown = true := by
  cases p with
  | unknown s n => rfl
  | missing s h n =>
    obtain ⟨hUse, hLookup, hMissing⟩ := missing_mem_reconcile.1 hp
    have hNeeded : h ∈ neededHeaders k (usages text) := mem_neededHeaders.2 ⟨_, hUse, hLookup⟩
    exact absurd ((hSame h).2 hNeeded) hMissing
  | excess h n =>
    obtain ⟨hInclude, hUnused⟩ := excess_mem_reconcile.1 hp
    have hNeeded := (hSame h).1 (List.mem_map_of_mem (f := Mention.name) hInclude)
    obtain ⟨u, hu, hLookup⟩ := mem_neededHeaders.1 hNeeded
    exact absurd hLookup (hUnused u hu)

theorem filter_isUnknown_eq_nil_iff {problems : List IncludeProblem} :
    problems.filter IncludeProblem.isUnknown = [] ↔ ∀ s n, .unknown s n ∉ problems := by
  rw [List.filter_eq_nil_iff]
  constructor
  · intro hNone s n hMem
    exact hNone _ hMem rfl
  · intro hNone p hp
    cases p with
    | unknown s n => exact absurd hp (hNone s n)
    | missing s h n => exact Bool.false_ne_true
    | excess h n => exact Bool.false_ne_true

section Repair

variable {added : List String}

theorem isHeaderName_of_mem_added (hHeaders : ∀ h ∈ k.headers, IsHeaderName h)
    (hAdded : added.Perm (missingHeaders (reconcile k text))) :
    ∀ h ∈ added, IsHeaderName h := by
  intro h hh
  have hNeeded := (mem_missingHeaders_reconcile.1 (hAdded.mem_iff.1 hh)).2
  obtain ⟨u, -, hLookup⟩ := mem_neededHeaders.1 hNeeded
  exact hHeaders h (lookup_mem_headers hLookup)

theorem isHeaderName_of_mem_excessHeaders :
    ∀ x ∈ excessHeaders (reconcile k text), IsHeaderName x := by
  intro x hx
  exact (mem_map_name_includes.1 (mem_excessHeaders_reconcile.1 hx).1).1

/-- **After the repair the included headers are those that the symbols need**:
what was missing is added, and what was in excess is gone. -/
theorem mem_map_name_includes_repair (hHeaders : ∀ h ∈ k.headers, IsHeaderName h)
    (hAdded : added.Perm (missingHeaders (reconcile k text)))
    (hAlone : ∀ x ∈ excessHeaders (reconcile k text), ∀ l ∈ Text.lines text.toList,
      includeDirective x <:+: l → l = includeDirective x) {h : String} :
    h ∈ (includes (amend added (excessHeaders (reconcile k text)) text)).map (·.name) ↔
      h ∈ neededHeaders k (usages text) := by
  rw [mem_map_name_includes_amend (isHeaderName_of_mem_added hHeaders hAdded)
    isHeaderName_of_mem_excessHeaders hAlone, hAdded.mem_iff, mem_missingHeaders_reconcile,
    mem_excessHeaders_reconcile]
  by_cases hNeeded : h ∈ neededHeaders k (usages text)
  · by_cases hIn : h ∈ (includes text).map (·.name)
    · -- a needed header is not in excess, so it stays
      exact ⟨fun _ => hNeeded, fun _ => Or.inr ⟨hIn, fun hExcess => hExcess.2 hNeeded⟩⟩
    · exact ⟨fun _ => hNeeded, fun _ => Or.inl ⟨hIn, hNeeded⟩⟩
  · constructor
    · intro hEither
      rcases hEither with hAdd | hKept
      · exact hAdd.2
      · exact absurd ⟨hKept.1, hNeeded⟩ hKept.2
    · intro hIn
      exact absurd hIn hNeeded

end Repair

/--
**Repair in one round.** Let a text be amended as its report asks: include
lines for the missing headers, in any order, in front, and the include lines
of the excess headers deleted. Then the report on the amended text consists of
the unknown symbols of the first report, in the same order, and the amended
text passes if and only if there was none.
-/
theorem reconcile_amend (k : Knowledge) (text : String) (added : List String)
    (hHeaders : ∀ h ∈ k.headers, IsHeaderName h)
    (hAdded : added.Perm (missingHeaders (reconcile k text)))
    (hAlone : ∀ x ∈ excessHeaders (reconcile k text), ∀ l ∈ Text.lines text.toList,
      includeDirective x <:+: l → l = includeDirective x) :
    (reconcile k (amend added (excessHeaders (reconcile k text)) text)).map
        IncludeProblem.withoutLine =
      ((reconcile k text).filter IncludeProblem.isUnknown).map IncludeProblem.withoutLine ∧
    (reconcileOutcome (reconcile k (amend added (excessHeaders (reconcile k text)) text)) =
        .success ↔
      ∀ s n, .unknown s n ∉ reconcile k text) := by
  set amended := amend added (excessHeaders (reconcile k text)) text
  have hUses : (usages amended).map (·.name) = (usages text).map (·.name) :=
    map_name_usages_amend (isHeaderName_of_mem_added hHeaders hAdded)
      isHeaderName_of_mem_excessHeaders
  have hIncluded : ∀ h, h ∈ (includes amended).map (·.name) ↔
      h ∈ neededHeaders k (usages amended) := by
    intro h
    rw [neededHeaders_eq_filterMap, hUses, ← neededHeaders_eq_filterMap]
    exact mem_map_name_includes_repair hHeaders hAdded hAlone
  have hOnly : (reconcile k amended).filter IncludeProblem.isUnknown = reconcile k amended :=
    List.filter_eq_self.2 fun _ hp => isUnknown_of_mem_reconcile hIncluded hp
  have hReport : (reconcile k amended).map IncludeProblem.withoutLine =
      ((reconcile k text).filter IncludeProblem.isUnknown).map IncludeProblem.withoutLine := by
    rw [← hOnly, map_withoutLine_unknown, map_withoutLine_unknown, hUses]
  refine ⟨hReport, ?_⟩
  rw [reconcileOutcome_eq_success, ← filter_isUnknown_eq_nil_iff, ← List.map_eq_nil_iff, hReport,
    List.map_eq_nil_iff]

/-- Headers of three symbols. -/
def sampleKnowledge : Knowledge :=
  .ofEntries [("std::vector", "vector"), ("std::string", "string"), ("std::set", "set")]

/-- A text with an excess header, two missing ones and an unknown symbol. -/
def sampleText : String :=
  "#include <map>\r\n#include <set>\nstd::vector<std::string> v;\nstd::set<std::bogus> s;\n"

/-- The repair of a text that needs all three kinds of edits: the missing
headers are added in another order than the report gives. -/
theorem reconcile_amend_sample :
    (∀ h ∈ sampleKnowledge.headers, IsHeaderName h) ∧
    ["string", "vector"].Perm (missingHeaders (reconcile sampleKnowledge sampleText)) ∧
    (∀ x ∈ excessHeaders (reconcile sampleKnowledge sampleText), ∀ l ∈ Text.lines sampleText.toList,
      includeDirective x <:+: l → l = includeDirective x) ∧
    (reconcile sampleKnowledge (amend ["string", "vector"]
        (excessHeaders (reconcile sampleKnowledge sampleText)) sampleText)).map
        IncludeProblem.withoutLine =
      ((reconcile sampleKnowledge sampleText).filter IncludeProblem.isUnknown).map
        IncludeProblem.withoutLine ∧
    (reconcileOutcome (reconcile sampleKnowledge (amend ["string", "vector"]
        (excessHeaders (reconcile sampleKnowledge sampleText)) sampleText)) = .success ↔
      ∀ s n, .unknown s n ∉ reconcile sampleKnowledge sampleText) := by
  have hHeaders : ∀ h ∈ sampleKnowledge.headers, IsHeaderName h := by decide
  have hAdded : ["string", "vector"].Perm
      (missingHeaders (reconcile sampleKnowledge sampleText)) := by
    decide +kernel
  have hAlone : ∀ x ∈ excessHeaders (reconcile sampleKnowledge sampleText),
      ∀ l ∈ Text.lines sampleText.toList, includeDirective x <:+: l → l = includeDirective x := by
    decide +kernel
  exact ⟨hHeaders, hAdded, hAlone, reconcile_amend _ _ _ hHeaders hAdded hAlone⟩

end SourceLint
