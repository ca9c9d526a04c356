import SourceLint.Proofs.Rule.Repair

/-!
# Round trip — what is written is read back

A text can be written from a list of headers and a list of symbols: an include
line for each header, then a line that uses each symbol. What is read of it are
the headers and the symbols of the lists, each once and where it was written
first, whatever the lists repeat and however one symbol is a part of another.
So the report on the text compares the two lists and nothing else.

* `findAll_useLine`        — a line that uses a symbol uses no other.
* `includes_written`, `usages_written` — what is read of a written text.
* `reconcile_written`      — the report on it.
-/

namespace SourceLint

/-- The name of a symbol: a qualifier and behind it word characters and colons,
at least one. -/
def IsSymbolName (s : String) : Prop :=
  IsQualified s.toList ∧ ∀ c ∈ s.toList, Text.isWord c = true ∨ c = ':'

instance (s : String) : Decidable (IsSymbolName s) :=
  have : Decidable (∀ c ∈ s.toList, Text.isWord c = true ∨ c = ':') := List.decidableBAll _ _
  inferInstanceAs (Decidable (_ ∧ _))

/-- A line that uses the symbol. -/
def useLine (s : String) : List Char :=
  ("auto x = " ++ s ++ ";").toList

/-- The text with a line for each header, and then one for each symbol. -/
def written (headers symbols : List String) : String :=
  String.ofList (Text.terminated (headers.map includeDirective ++ symbols.map useLine))

-- ---------------------------------------------------------------------------
-- Lines that use a symbol
-- ---------------------------------------------------------------------------

theorem isNameChar_iff {c : Char} :
    isNameChar c = true ↔ Text.isWord c = true ∨ c = ':' := by
  simp [isNameChar]

theorem runSymbol?_of_isQualified {run : List Char} (h : IsQualified run) :
    runSymbol? run = some run := by
  cases run with
  | nil => exact absurd h (by decide)
  | cons c run => rw [runSymbol?_cons, if_pos h]

/-- Symbols do not reach over a foreign character. -/
theorem findAll_qualifiedSymbol_append_cons (front rest : List Char) {d : Char}
    (hStop : isNameChar d = false) :
    Text.findAll qualifiedSymbol (front ++ d :: rest) =
      Text.findAll qualifiedSymbol front ++ Text.findAll qualifiedSymbol rest := by
  simp only [findAll_qualifiedSymbol, nameRuns_append_cons front rest hStop, List.filterMap_append,
    List.map_append]

/-- A symbol's name is read as that symbol, whatever qualifiers it goes on
with. -/
theorem findAll_qualifiedSymbol_name {s : String} (hs : IsSymbolName s) :
    Text.findAll qualifiedSymbol s.toList = [s] := by
  have hRun : ∀ c ∈ s.toList, isNameChar c = true := fun c hc => isNameChar_iff.2 (hs.2 c hc)
  rw [findAll_qualifiedSymbol, filterMap_nameRuns_of_run hRun, runSymbol?_of_isQualified hs.1]
  exact congrArg (fun name => [name]) String.ofList_toList

theorem useLine_eq (s : String) :
    useLine s = "auto x =".toList ++ ' ' :: (s.toList ++ [';']) := by
  have hLead : "auto x = ".toList = "auto x =".toList ++ [' '] := by decide
  have hEnd : ";".toList = [';'] := by decide
  rw [useLine, String.toList_append, String.toList_append, hLead, hEnd, List.append_assoc,
    List.append_assoc, List.singleton_append]

/-- **A line that uses a symbol** uses that symbol only. -/
theorem findAll_useLine {s : String} (hs : IsSymbolName s) :
    Text.findAll qualifiedSymbol (useLine s) = [s] := by
  have hLead : Text.findAll qualifiedSymbol "auto x =".toList = [] :=
    findAll_qualifiedSymbol_eq_nil (by decide)
  rw [useLine_eq, findAll_qualifiedSymbol_append_cons _ _ (by decide),
    findAll_qualifiedSymbol_append_cons _ _ (by decide), hLead, findAll_qualifiedSymbol_name hs]
  rfl

/-- A character of a line that uses a symbol is one of the fixed parts or of
the name. -/
theorem not_mem_useLine {x : Char} {s : String} (hs : IsSymbolName s)
    (hFixed : x ∉ "auto x = ;".toList) (hName : isNameChar x = false) : x ∉ useLine s := by
  intro hMem
  rw [useLine_eq, List.mem_append, List.mem_cons, List.mem_append] at hMem
  rcases hMem with hLead | rfl | hSymbol | hEnd
  · exact hFixed (List.mem_append_left _ hLead : x ∈ "auto x =".toList ++ " ;".toList)
  · exact hFixed (by decide)
  · rw [isNameChar_iff.2 (hs.2 x hSymbol)] at hName
    exact absurd hName (by decide)
  · rw [List.mem_singleton.1 hEnd] at hFixed
    exact hFixed (by decide)

/-- A line that uses a symbol includes nothing. -/
theorem findAll_systemInclude_useLine {s : String} (hs : IsSymbolName s) :
    Text.findAll systemInclude (useLine s) = [] := by
  rw [List.eq_nil_iff_forall_not_mem]
  intro h hFound
  obtain ⟨-, hInfix⟩ := mem_findAll_systemInclude.1 hFound
  obtain ⟨rest, hDirective⟩ := includeDirective_eq_cons h
  -- the mark of a directive would stand in the line
  have hMark : '#' ∈ useLine s := hInfix.subset (hDirective ▸ List.mem_cons_self ..)
  exact not_mem_useLine hs (by decide) (by decide) hMark

-- ---------------------------------------------------------------------------
-- Written texts
-- ---------------------------------------------------------------------------

section Written

variable {headers symbols : List String}

/-- The lines of a written text consist of fixed parts and of names. -/
theorem not_mem_written (hHeaders : ∀ h ∈ headers, IsHeaderName h)
    (hSymbols : ∀ s ∈ symbols, IsSymbolName s) {x : Char} (hDirective : x ∉ "#include <>".toList)
    (hUse : x ∉ "auto x = ;".toList) (hHeader : isHeaderChar x = false)
    (hName : isNameChar x = false) :
    ∀ l ∈ headers.map includeDirective ++ symbols.map useLine, x ∉ l := by
  intro l hl
  rcases List.mem_append.1 hl with hInclude | hSymbol
  · obtain ⟨h, hh, rfl⟩ := List.mem_map.1 hInclude
    exact not_mem_includeDirective (hHeaders h hh) hDirective hHeader
  · obtain ⟨s, hs, rfl⟩ := List.mem_map.1 hSymbol
    exact not_mem_useLine (hSymbols s hs) hUse hName

/-- So none of them holds a part of a line break. -/
theorem plain_written (hHeaders : ∀ h ∈ headers, IsHeaderName h)
    (hSymbols : ∀ s ∈ symbols, IsSymbolName s) :
    ∀ l ∈ headers.map includeDirective ++ symbols.map useLine,
      '\n' ∉ l ∧ l.getLast? ≠ some '\r' := by
  intro l hl
  have hNewline : '\n' ∉ l :=
    not_mem_written hHeaders hSymbols (by decide) (by decide) (by decide) (by decide) l hl
  have hReturn : '\r' ∉ l :=
    not_mem_written hHeaders hSymbols (by decide) (by decide) (by decide) (by decide) l hl
  exact ⟨hNewline, fun hLast => hReturn (List.mem_of_getLast? hLast)⟩

/-- **The headers that were written** are included, and nothing else. -/
theorem includes_written (hHeaders : ∀ h ∈ headers, IsHeaderName h)
    (hSymbols : ∀ s ∈ symbols, IsSymbolName s) :
    includes (written headers symbols) =
      (distinctOn id headers).map fun h => ⟨h, headers.idxOf h + 1⟩ := by
  have hUses : ∀ l ∈ symbols.map useLine, Text.findAll systemInclude l = [] := by
    intro l hl
    obtain ⟨s, hs, rfl⟩ := List.mem_map.1 hl
    exact findAll_systemInclude_useLine (hSymbols s hs)
  have hLines := plain_written hHeaders hSymbols
  rw [← List.nil_append (headers.map includeDirective)] at hLines
  have hMentions := mentions_terminated hLines (List.forall_mem_nil _)
    (fun h hh => findAll_systemInclude_directive (hHeaders h hh)) hUses
  simpa [includes, written] using hMentions

/-- **The symbols that were written** are used, and nothing else. -/
theorem usages_written (hHeaders : ∀ h ∈ headers, IsHeaderName h)
    (hSymbols : ∀ s ∈ symbols, IsSymbolName s) :
    usages (written headers symbols) =
      (distinctOn id symbols).map fun s => ⟨s, headers.length + symbols.idxOf s + 1⟩ := by
  have hDirectives : ∀ l ∈ headers.map includeDirective, Text.findAll qualifiedSymbol l = [] := by
    intro l hl
    obtain ⟨h, hh, rfl⟩ := List.mem_map.1 hl
    exact findAll_qualifiedSymbol_directive (hHeaders h hh)
  have hLines := plain_written hHeaders hSymbols
  rw [← List.append_nil (headers.map includeDirective ++ _)] at hLines
  have hMentions := mentions_terminated hLines hDirectives
    (fun s hs => findAll_useLine (hSymbols s hs)) (List.forall_mem_nil _)
  simpa [usages, written] using hMentions

end Written

-- ---------------------------------------------------------------------------
-- The report on a written text
-- ---------------------------------------------------------------------------

theorem filterMap_includeProblem? (needed : List String) (inclusions : List Mention) :
    inclusions.filterMap (includeProblem? needed) =
      (inclusions.filter fun i => i.name ∉ needed).map fun i => .excess i.name i.line := by
  induction inclusions with
  | nil => rfl
  | cons i inclusions ih =>
    rw [List.filterMap_cons, ih]
    by_cases hNeeded : i.name ∈ needed
    · simp [includeProblem?, hNeeded]
    · simp [includeProblem?, hNeeded]

/-- Known symbols have no problem but a missing header. -/
theorem filterMap_useProblem?_of_known {k : Knowledge} {included names : List String}
    (hKnown : ∀ s ∈ names, ∃ h, k.lookup s = some h) (line : String → Nat) :
    (names.map fun s => ⟨s, line s⟩).filterMap (useProblem? k included) =
      names.filterMap fun s => (k.lookup s).bind fun h =>
        if h ∈ included then none else some (.missing s h (line s)) := by
  rw [List.filterMap_map]
  apply List.filterMap_congr
  intro s hs
  obtain ⟨h, hLookup⟩ := hKnown s hs
  simp only [Function.comp_apply, useProblem?, hLookup, Option.bind_some]

/--
**The report on a written text.** Let every symbol that is known be spelled as
a qualified name. Then a text written from headers and known symbols includes
those headers and uses those symbols, each once and where it was written first.
It is reported for each symbol whose header is not among the headers, and for
each header that no symbol needs, once each, and for nothing else. So it passes
if and only if the headers are those that the symbols need.
-/
theorem reconcile_written (k : Knowledge) (headers symbols : List String)
    (hSpelled : ∀ e ∈ k.entries, IsSymbolName e.1)
    (hSymbols : ∀ s ∈ symbols, s ∈ k.entries.map Prod.fst)
    (hHeaders : ∀ h ∈ headers, IsHeaderName h) :
    includes (written headers symbols) =
      (distinctOn id headers).map (fun h => ⟨h, headers.idxOf h + 1⟩) ∧
    usages (written headers symbols) =
      (distinctOn id symbols).map (fun s => ⟨s, headers.length + symbols.idxOf s + 1⟩) ∧
    reconcile k (written headers symbols) =
      (distinctOn id symbols).filterMap (fun s => (k.lookup s).bind fun h =>
        if h ∈ headers then none
        else some (.missing s h (headers.length + symbols.idxOf s + 1))) ++
      ((distinctOn id headers).filter fun h => ∀ s ∈ symbols, k.lookup s ≠ some h).map
        (fun h => .excess h (headers.idxOf h + 1)) ∧
    (reconcileOutcome (reconcile k (written headers symbols)) = .success ↔
      ∀ h, h ∈ headers ↔ ∃ s ∈ symbols, k.lookup s = some h) := by
  have hNames : ∀ s ∈ symbols, IsSymbolName s := by
    intro s hs
    obtain ⟨e, he, rfl⟩ := List.mem_map.1 (hSymbols s hs)
    exact hSpelled e he
  have hKnown : ∀ s ∈ symbols, ∃ h, k.lookup s = some h := by
    intro s hs
    obtain ⟨e, he, rfl⟩ := List.mem_map.1 (hSymbols s hs)
    exact Option.isSome_iff_exists.1 (List.lookup_isSome_iff.2 ⟨e, he, beq_self_eq_true _⟩)
  have hIncludes := includes_written hHeaders hNames
  have hUsages := usages_written hHeaders hNames
  have hIncluded : (includes (written headers symbols)).map (·.name) = distinctOn id headers := by
    rw [hIncludes, List.map_map]
    exact List.map_id _
  have hUsed : (usages (written headers symbols)).map (·.name) = distinctOn id symbols := by
    rw [hUsages, List.map_map]
    exact List.map_id _
  have hNeeded : ∀ h, h ∈ neededHeaders k (usages (written headers symbols)) ↔
      ∃ s ∈ symbols, k.lookup s = some h := by
    intro h
    rw [neededHeaders_eq_filterMap, hUsed, List.mem_filterMap]
    simp only [mem_distinctOn_id]
  have hMissing : (usages (written headers symbols)).filterMap
        (useProblem? k ((includes (written headers symbols)).map (·.name))) =
      (distinctOn id symbols).filterMap fun s => (k.lookup s).bind fun h =>
        if h ∈ headers then none
        else some (.missing s h (headers.length + symbols.idxOf s + 1)) := by
    rw [hIncluded, hUsages, filterMap_useProblem?_of_known fun s hs =>
      hKnown s (mem_distinctOn_id.1 hs)]
    simp only [mem_distinctOn_id]
  have hExcess : (includes (written headers symbols)).filterMap
        (includeProblem? (neededHeaders k (usages (written headers symbols)))) =
      ((distinctOn id headers).filter fun h => ∀ s ∈ symbols, k.lookup s ≠ some h).map
        fun h => .excess h (headers.idxOf h + 1) := by
    rw [filterMap_includeProblem?, hIncludes, List.filter_map, List.map_map]
    refine congrArg (List.map _) (List.filter_congr fun h _ => ?_)
    simp only [Function.comp_apply, hNeeded, not_exists, not_and, ne_eq]
  refine ⟨hIncludes, hUsages, ?_, ?_⟩
  · rw [reconcile, hMissing, hExcess]
  · rw [reconcileOutcome_eq_success_iff]
    simp only [← mem_neededHeaders, hNeeded, hIncluded, mem_distinctOn_id]
    refine and_iff_right ?_
    intro u hu
    have hName : u.name ∈ distinctOn id symbols := hUsed ▸ List.mem_map_of_mem hu
    exact hKnown u.name (mem_distinctOn_id.1 hName)

/-- A symbol that goes on with qualifiers, one that is a part of it, and a
header that serves two symbols. -/
def nestedKnowledge : Knowledge :=
  .ofEntries [("boost::std::any", "boost/any.hpp"), ("std::any", "any"), ("std::any_cast", "any"),
    ("std::any::", "any.h"), ("std::set", "set")]

/-- Lists with repetitions, two missing headers and an excess one. -/
theorem reconcile_written_nested :
    (∀ e ∈ nestedKnowledge.entries, IsSymbolName e.1) ∧
    (∀ s ∈ ["std::any", "boost::std::any", "std::any_cast", "std::any", "std::any::"],
      s ∈ nestedKnowledge.entries.map Prod.fst) ∧
    (∀ h ∈ ["any", "set", "any", "café/x.h"], IsHeaderName h) ∧
    reconcile nestedKnowledge (written ["any", "set", "any", "café/x.h"]
        ["std::any", "boost::std::any", "std::any_cast", "std::any", "std::any::"]) =
      [.missing "boost::std::any" "boost/any.hpp" 6, .missing "std::any::" "any.h" 9,
        .excess "set" 2, .excess "café/x.h" 4] := by
  have hSpelled : ∀ e ∈ nestedKnowledge.entries, IsSymbolName e.1 := by decide +kernel
  have hSymbols : ∀ s ∈ ["std::any", "boost::std::any", "std::any_cast", "std::any", "std::any::"],
      s ∈ nestedKnowledge.entries.map Prod.fst := by decide +kernel
  have hHeaders : ∀ h ∈ ["any", "set", "any", "café/x.h"], IsHeaderName h := by decide +kernel
  refine ⟨hSpelled, hSymbols, hHeaders, ?_⟩
  rw [(reconcile_written nestedKnowledge _ _ hSpelled hSymbols hHeaders).2.2.1]
  decide +kernel

end SourceLint
