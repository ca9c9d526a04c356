import Mathlib.Data.List.Infix
import SourceLint.Extract.Usage
import SourceLint.Proofs.Extract.Mention

/-!
# Used symbols — a scan that reads run by run

`usages` scans a line for a qualifier and reads on to the end of the run of
word characters and colons in which the qualifier stands. Read run by run the
rule is plain: a run gives its longest suffix that begins with a qualifier and
goes on behind it, or nothing.

* `qualifiedSymbol_eq`            — the recogniser reads the run in front.
* `findAll_qualifiedSymbol`       — a scan takes the runs one after the other.
* `usages_eq_firstOccurrences`    — the symbols of a text, from its runs.
-/

namespace SourceLint

-- ---------------------------------------------------------------------------
-- Runs and what they contribute
-- ---------------------------------------------------------------------------

/-- The maximal runs of word characters and colons, from left to right. -/
def nameRuns (line : List Char) : List (List Char) :=
  (line.splitOnP fun c => !(Text.isWord c || c == ':')).filter (· ≠ [])

/-- The text begins with a qualifier and goes on behind it. -/
def IsQualified (t : List Char) : Prop :=
  ∃ q ∈ ["std::", "boost::"], q.toList <+: t ∧ q.toList.length < t.length

instance (t : List Char) : Decidable (IsQualified t) :=
  inferInstanceAs (Decidable (∃ q ∈ ["std::", "boost::"], _ ∧ _))

/-- The symbol of a run: its longest suffix that is qualified. -/
def runSymbol? (run : List Char) : Option (List Char) :=
  run.tails.find? (IsQualified ·)

/-- The symbols that the runs of a text contribute, repetitions included, each
with the number of its line. -/
def contributions (text : String) : List Mention :=
  ((Text.lines text.toList).zipIdx 1).flatMap fun (line, n) =>
    ((nameRuns line).filterMap runSymbol?).map fun s => ⟨String.ofList s, n⟩

theorem runSymbol?_cons (c : Char) (run : List Char) :
    runSymbol? (c :: run) = if IsQualified (c :: run) then some (c :: run) else runSymbol? run := by
  rw [runSymbol?, List.tails_cons, List.find?_cons]
  split <;> simp_all [runSymbol?]

theorem nameRuns_of_run {run : List Char} (hRun : ∀ c ∈ run, isNameChar c = true) :
    nameRuns run = if run = [] then [] else [run] := by
  rw [nameRuns, List.splitOnP_eq_singleton]
  · by_cases h : run = []
    · simp [h]
    · simp [h]
  · intro c hc
    have := hRun c hc
    rw [isNameChar] at this
    rw [this]
    rfl

/-- Behind a run and a foreign character the runs are those of the rest. -/
theorem nameRuns_append_cons (run rest : List Char) {d : Char} (hStop : isNameChar d = false) :
    nameRuns (run ++ d :: rest) = nameRuns run ++ nameRuns rest := by
  rw [isNameChar] at hStop
  rw [nameRuns, List.splitOnP_append_cons run rest (by rw [hStop]; rfl), List.filter_append]
  rfl

-- ---------------------------------------------------------------------------
-- The recogniser
-- ---------------------------------------------------------------------------

/-- A qualifier of name characters is read together with the run that it
begins. -/
theorem qualifiedBy_eq {q : String} (hChars : ∀ c ∈ q.toList, isNameChar c = true)
    (cs : List Char) :
    qualifiedBy q cs =
      if q.toList <+: cs.takeWhile isNameChar ∧
          q.toList.length < (cs.takeWhile isNameChar).length then
        some (String.ofList (cs.takeWhile isNameChar), (cs.takeWhile isNameChar).length)
      else none := by
  unfold qualifiedBy
  cases hLead : Text.dropStart? q.toList cs with
  | none =>
    rw [if_neg]
    rintro ⟨hPrefix, -⟩
    obtain ⟨rest, hRest⟩ := hPrefix.trans (List.takeWhile_prefix _)
    rw [Text.dropStart?_eq_some_iff.2 hRest.symm] at hLead
    simp at hLead
  | some rest =>
    obtain rfl := Text.dropStart?_eq_some_iff.1 hLead
    rw [List.takeWhile_append_of_pos hChars]
    cases hRun : rest.takeWhile isNameChar with
    | nil => simp [hRun]
    | cons c tail => simp [hRun]

/-- **The recogniser reads the run in front of it**, if that is qualified. -/
theorem qualifiedSymbol_eq (cs : List Char) :
    qualifiedSymbol cs =
      if IsQualified (cs.takeWhile isNameChar) then
        some (String.ofList (cs.takeWhile isNameChar), (cs.takeWhile isNameChar).length)
      else none := by
  have hStd : ∀ c ∈ "std::".toList, isNameChar c = true :=
    List.all_eq_true.1 (by decide)
  have hBoost : ∀ c ∈ "boost::".toList, isNameChar c = true :=
    List.all_eq_true.1 (by decide)
  rw [qualifiedSymbol, qualifiers, List.findSome?_cons, List.findSome?_cons, List.findSome?_nil,
    qualifiedBy_eq hStd, qualifiedBy_eq hBoost]
  unfold IsQualified
  simp only [List.exists_mem_cons_iff, List.not_mem_nil, false_and, exists_false, or_false]
  generalize cs.takeWhile isNameChar = run
  by_cases h₁ : "std::".toList <+: run ∧ "std::".toList.length < run.length
  · rw [if_pos h₁, if_pos (Or.inl h₁)]
  · by_cases h₂ : "boost::".toList <+: run ∧ "boost::".toList.length < run.length
    · rw [if_neg h₁, if_pos h₂, if_pos (Or.inr h₂)]
    · rw [if_neg h₁, if_neg h₂, if_neg (not_or.2 ⟨h₁, h₂⟩)]

/-- What is found begins with a qualifier and consists of name characters. -/
theorem isQualified_of_mem_findAll {line : List Char} {s : String}
    (hs : s ∈ Text.findAll qualifiedSymbol line) :
    IsQualified s.toList ∧ ∀ c ∈ s.toList, isNameChar c = true := by
  obtain ⟨column, size, hFind⟩ := Text.exists_find_of_mem_findAll hs
  rw [qualifiedSymbol_eq] at hFind
  split at hFind
  · next hQualified =>
    rw [Option.some.injEq, Prod.mk.injEq] at hFind
    rw [← hFind.1, String.toList_ofList]
    exact ⟨hQualified, fun c hc => List.all_eq_true.1 List.all_takeWhile c hc⟩
  · simp at hFind

/-- A line without a colon uses no symbol. -/
theorem findAll_qualifiedSymbol_eq_nil {line : List Char} (hColon : ':' ∉ line) :
    Text.findAll qualifiedSymbol line = [] := by
  rw [List.eq_nil_iff_forall_not_mem]
  intro s hs
  obtain ⟨column, size, hFind⟩ := Text.exists_find_of_mem_findAll hs
  rw [qualifiedSymbol_eq] at hFind
  split at hFind
  · next hQualified =>
    obtain ⟨q, hq, hPrefix, -⟩ := hQualified
    have hInLine : q.toList.Sublist line :=
      (hPrefix.trans (List.takeWhile_prefix _)).sublist.trans (List.drop_sublist _ _)
    have hInQualifier : ∀ q ∈ ["std::", "boost::"], ':' ∈ q.toList := by decide
    exact hColon (hInLine.subset (hInQualifier q hq))
  · simp at hFind

/-- A character that stands in no name ends no symbol. -/
theorem qualifiedSymbol_ignores {x : Char} (hx : isNameChar x = false) :
    Text.Ignores qualifiedSymbol x := by
  intro cs
  have hSame : (cs ++ [x]).takeWhile isNameChar = cs.takeWhile isNameChar := by
    rw [List.takeWhile_append]
    split
    · next hAll =>
      rw [List.takeWhile_cons_of_neg (by simp [hx]), List.append_nil]
      exact ((List.takeWhile_prefix _).eq_of_length hAll).symm
    · rfl
  rw [qualifiedSymbol_eq, qualifiedSymbol_eq, hSame]

-- ---------------------------------------------------------------------------
-- Scanning run by run
-- ---------------------------------------------------------------------------

/-- A text begins with a run of characters of one kind, and none of that kind
comes next. -/
theorem exists_run (p : Char → Bool) (cs : List Char) :
    ∃ run rest, cs = run ++ rest ∧ (∀ c ∈ run, p c = true) ∧
      ∀ c, rest.head? = some c → p c = false := by
  refine ⟨cs.takeWhile p, cs.dropWhile p, List.takeWhile_append_dropWhile.symm,
    fun c hc => List.all_eq_true.1 List.all_takeWhile c hc, fun c hc => ?_⟩
  have hStop := List.head?_dropWhile_not p cs
  rw [hc] at hStop
  simpa using hStop

/-- A line is a run, or a run with a foreign character and another line behind
it. -/
theorem run_induction {motive : List Char → Prop}
    (last : ∀ run, (∀ c ∈ run, isNameChar c = true) → motive run)
    (more : ∀ run d rest, (∀ c ∈ run, isNameChar c = true) → isNameChar d = false →
      motive rest → motive (run ++ d :: rest))
    (line : List Char) : motive line := by
  induction hLen : line.length using Nat.strongRecOn generalizing line with
  | ind n ih =>
    obtain ⟨run, rest, rfl, hRun, hStop⟩ := exists_run isNameChar line
    cases rest with
    | nil =>
      rw [List.append_nil]
      exact last run hRun
    | cons d rest =>
      have hShort : rest.length < n := by
        rw [List.length_append, List.length_cons] at hLen
        omega
      exact more run d rest hRun (hStop d rfl) (ih _ hShort rest rfl)

/-- A scan of a run and what does not belong to it finds the run's symbol and
goes on behind the run. -/
theorem findAll_run_append {run : List Char} (hRun : ∀ c ∈ run, isNameChar c = true)
    {rest : List Char} (hRest : rest.takeWhile isNameChar = []) :
    Text.findAll qualifiedSymbol (run ++ rest) =
      (runSymbol? run).toList.map String.ofList ++ Text.findAll qualifiedSymbol rest := by
  induction run with
  | nil => rfl
  | cons c run ih =>
    have hTail : ∀ d ∈ run, isNameChar d = true := fun d hd => hRun d (List.mem_cons_of_mem _ hd)
    have hFront : (c :: (run ++ rest)).takeWhile isNameChar = c :: run := by
      rw [← List.cons_append, List.takeWhile_append_of_pos hRun, hRest, List.append_nil]
    have hFind := qualifiedSymbol_eq (c :: (run ++ rest))
    rw [hFront] at hFind
    rw [List.cons_append, runSymbol?_cons]
    by_cases hQualified : IsQualified (c :: run)
    · rw [if_pos hQualified] at hFind
      rw [if_pos hQualified, Text.findAll_cons_of_some hFind, List.length_cons,
        Nat.add_sub_cancel, List.drop_left]
      rfl
    · rw [if_neg hQualified] at hFind
      rw [if_neg hQualified, Text.findAll_cons_of_none hFind, ih hTail]

theorem filterMap_nameRuns_of_run {run : List Char} (hRun : ∀ c ∈ run, isNameChar c = true) :
    (nameRuns run).filterMap runSymbol? = (runSymbol? run).toList := by
  rw [nameRuns_of_run hRun]
  by_cases h : run = []
  · rw [if_pos h, h]
    rfl
  · rw [if_neg h, List.filterMap_cons]
    cases runSymbol? run <;> rfl

/-- **A scan takes a line run by run.** -/
theorem findAll_qualifiedSymbol (line : List Char) :
    Text.findAll qualifiedSymbol line =
      ((nameRuns line).filterMap runSymbol?).map String.ofList := by
  induction line using run_induction with
  | last run hRun =>
    have hScan : Text.findAll qualifiedSymbol (run ++ []) = _ := findAll_run_append hRun rfl
    rw [List.append_nil, Text.findAll_nil, List.append_nil] at hScan
    rw [hScan, filterMap_nameRuns_of_run hRun]
  | more run d rest hRun hStop ih =>
    have hEmpty : (d :: rest).takeWhile isNameChar = [] :=
      List.takeWhile_cons_of_neg (by simp [hStop])
    have hNone : qualifiedSymbol (d :: rest) = none := by
      rw [qualifiedSymbol_eq, hEmpty]
      exact if_neg (by decide)
    rw [findAll_run_append hRun hEmpty, Text.findAll_cons_of_none hNone, ih,
      nameRuns_append_cons run rest hStop, List.filterMap_append, List.map_append,
      filterMap_nameRuns_of_run hRun]

-- ---------------------------------------------------------------------------
-- The symbols of a text
-- ---------------------------------------------------------------------------

/-- The finds of a text, repetitions included, are what its runs contribute. -/
theorem occurrences_qualifiedSymbol (text : String) :
    occurrences qualifiedSymbol (Text.numbered (Text.lines text.toList)) = contributions text := by
  rw [occurrences, contributions, Text.numbered_eq_zipIdx]
  congr 1
  funext p
  cases p with
  | mk line n =>
    show (Text.findAll qualifiedSymbol line).map _ = _
    rw [findAll_qualifiedSymbol, List.map_map]
    rfl

/--
**The used symbols, run by run.** The symbols of a text are the first
occurrences among what its runs contribute. So no symbol is listed twice, each
is listed with the least line that contributes it, and what any run of any
line contributes is listed.
-/
theorem usages_eq_firstOccurrences (text : String) :
    usages text = firstOccurrences (·.name) (contributions text) ∧
    ((usages text).map (·.name)).Nodup ∧
    (∀ u ∈ usages text, u ∈ contributions text ∧
      ∀ c ∈ contributions text, c.name = u.name → u.line ≤ c.line) ∧
    ∀ c ∈ contributions text, ∃ u ∈ usages text, u.name = c.name := by
  have hUsages : usages text = distinctOn (·.name) (contributions text) := by
    rw [usages, mentions, occurrences_qualifiedSymbol]
  have hSorted : (contributions text).Pairwise fun c c' => c.line ≤ c'.line := by
    rw [← occurrences_qualifiedSymbol]
    exact occurrences_sorted _
  refine ⟨?_, nodup_map_name_mentions, ?_, ?_⟩
  · rw [hUsages, distinctOn_eq_firstOccurrences]
  · intro u hu
    rw [hUsages] at hu
    refine ⟨(distinctOn_sublist _).subset hu, ?_⟩
    intro c hc hName
    rcases rel_of_mem_distinctOn hSorted hu hc hName with rfl | hLess
    · exact Nat.le_refl _
    · exact hLess
  · intro c hc
    rw [hUsages]
    exact exists_mem_distinctOn hc

end SourceLint
