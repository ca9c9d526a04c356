import SourceLint.Proofs.Extract.Usage

/-!
# Qualified names — what a used symbol looks like, and when there is none

A qualified name is a scope and, behind it, words that are led in by double
colons. A used symbol need not be one: it is read to the end of its run, and a
run may have colons in any number and at any place. In the label
`case std::nullopt:` the colon belongs to the symbol. A symbol is a qualified
name exactly if its colons stand in pairs and none of them at the end.

The run in which a symbol stands may also begin with something else: `mystd::x`
uses `std::x`. So no symbol is used exactly if no run has a qualifier anywhere
with a character of the run behind it.

* `isQualifiedName_iff`       — qualified names, told by their colons.
* `usages_qualifiedName_iff`  — when all symbols of a text are such names.
* `usages_eq_nil_iff`         — when a text uses no symbol.
-/

namespace SourceLint

/-- Characters of words, at least one. -/
def IsWord (w : List Char) : Prop :=
  w ≠ [] ∧ ∀ c ∈ w, Text.isWord c = true

/-- A scope, and behind it groups of a double colon and a word, at least one. -/
def IsQualifiedName (s : List Char) : Prop :=
  ∃ scope ∈ ["std", "boost"], ∃ words : List (List Char), words ≠ [] ∧
    (∀ w ∈ words, IsWord w) ∧ s = scope.toList ++ words.flatMap ([':', ':'] ++ ·)

/-- The maximal runs of colons, from left to right. -/
def colonRuns (s : List Char) : List (List Char) :=
  (s.splitOnP fun c => !(c == ':')).filter (· ≠ [])

/-- Every colon is one of two that stand together with no third, and the last
character is no colon. -/
def ColonsPaired (s : List Char) : Prop :=
  (∀ run ∈ colonRuns s, run.length = 2) ∧ s.getLast? ≠ some ':'

instance (s : List Char) : Decidable (ColonsPaired s) :=
  inferInstanceAs (Decidable (_ ∧ _))

-- ---------------------------------------------------------------------------
-- Runs of colons
-- ---------------------------------------------------------------------------

theorem ne_colon_of_isWord {c : Char} (hc : Text.isWord c = true) : c ≠ ':' := by
  rintro rfl
  exact absurd hc (by decide)

theorem colonRuns_cons_of_ne {c : Char} (hc : c ≠ ':') (s : List Char) :
    colonRuns (c :: s) = colonRuns s := by
  have hSep : (!(c == ':')) = true := by simp [hc]
  rw [colonRuns, List.splitOnP_cons_eq_if_modifyHead, if_pos hSep]
  rfl

theorem colonRuns_append_of_ne {w : List Char} (hw : ∀ c ∈ w, c ≠ ':') (s : List Char) :
    colonRuns (w ++ s) = colonRuns s := by
  induction w with
  | nil => rfl
  | cons c w ih =>
    obtain ⟨hc, hRest⟩ := List.forall_mem_cons.1 hw
    rw [List.cons_append, colonRuns_cons_of_ne hc, ih hRest]

/-- Colons with none behind them are one run. -/
theorem colonRuns_append {run : List Char} (hRun : ∀ c ∈ run, c = ':') (hNe : run ≠ [])
    {rest : List Char} (hRest : rest.head? ≠ some ':') :
    colonRuns (run ++ rest) = run :: colonRuns rest := by
  have hAlone : (run.splitOnP fun c => !(c == ':')) = [run] :=
    List.splitOnP_eq_singleton fun c hc => by simp [hRun c hc]
  cases rest with
  | nil =>
    rw [List.append_nil, colonRuns, hAlone]
    simp [hNe, colonRuns]
  | cons d rest =>
    have hd : d ≠ ':' := fun h => hRest (congrArg some h)
    rw [colonRuns_cons_of_ne hd, colonRuns,
      List.splitOnP_append_cons run rest (by simp [hd]), hAlone, List.filter_append]
    simp [hNe, colonRuns]

-- ---------------------------------------------------------------------------
-- Qualified names, told by their colons
-- ---------------------------------------------------------------------------

theorem colonRuns_groups {words : List (List Char)}
    (hWords : ∀ w ∈ words, IsWord w) :
    ∀ run ∈ colonRuns (words.flatMap ([':', ':'] ++ ·)), run.length = 2 := by
  induction words with
  | nil =>
    intro run hRun
    exact absurd hRun List.not_mem_nil
  | cons w words ih =>
    obtain ⟨⟨hNe, hChars⟩, hRest⟩ := List.forall_mem_cons.1 hWords
    have hNoColon : ∀ c ∈ w, c ≠ ':' := fun c hc => ne_colon_of_isWord (hChars c hc)
    have hStop : (w ++ words.flatMap ([':', ':'] ++ ·)).head? ≠ some ':' := by
      obtain ⟨c, w, rfl⟩ := List.exists_cons_of_ne_nil hNe
      exact fun h => hNoColon c (List.mem_cons_self ..) (Option.some.inj h)
    have hTwo : ∀ c ∈ [':', ':'], c = ':' := by decide
    rw [List.flatMap_cons, List.append_assoc, colonRuns_append hTwo (List.cons_ne_nil _ _) hStop,
      colonRuns_append_of_ne hNoColon, List.forall_mem_cons]
    exact ⟨rfl, ih hRest⟩

theorem isNameChar_of_mem_groups {words : List (List Char)} (hWords : ∀ w ∈ words, IsWord w)
    {c : Char} (hc : c ∈ words.flatMap ([':', ':'] ++ ·)) : isNameChar c = true := by
  obtain ⟨w, hw, hc⟩ := List.mem_flatMap.1 hc
  rcases List.mem_append.1 hc with hColon | hc
  · obtain rfl : c = ':' := by simpa using hColon
    decide
  · rw [isNameChar, (hWords w hw).2 c hc, Bool.true_or]

theorem getLast?_groups {words : List (List Char)} (hNe : words ≠ [])
    (hWords : ∀ w ∈ words, IsWord w) (front : List Char) :
    (front ++ words.flatMap ([':', ':'] ++ ·)).getLast? ≠ some ':' := by
  obtain ⟨before, w, rfl⟩ : ∃ before w, words = before ++ [w] :=
    ⟨words.dropLast, words.getLast hNe, (List.dropLast_append_getLast hNe).symm⟩
  obtain ⟨hNonempty, hChars⟩ := hWords w (by simp)
  rw [List.flatMap_append, List.flatMap_singleton, ← List.append_assoc, ← List.append_assoc,
    List.getLast?_append_of_ne_nil _ hNonempty]
  exact fun hColon => ne_colon_of_isWord (hChars ':' (List.mem_of_getLast? hColon)) rfl

/-- Name characters that do not begin with a colon begin with a word, and go on
with a colon if they go on. -/
theorem exists_word {t : List Char} (hChars : ∀ c ∈ t, isNameChar c = true) (hNe : t ≠ [])
    (hFront : t.head? ≠ some ':') :
    ∃ w rest, t = w ++ rest ∧ IsWord w ∧
      (rest = [] ∨ rest.head? = some ':') := by
  obtain ⟨w, rest, rfl, hWord, hStop⟩ := exists_run Text.isWord t
  have hColon : rest = [] ∨ rest.head? = some ':' := by
    cases rest with
    | nil => exact Or.inl rfl
    | cons d rest =>
      have hd := hChars d (List.mem_append_right _ (List.mem_cons_self ..))
      rw [isNameChar, hStop d rfl, Bool.false_or, beq_iff_eq] at hd
      exact Or.inr (congrArg some hd)
  refine ⟨w, rest, rfl, ⟨?_, hWord⟩, hColon⟩
  rintro rfl
  exact hColon.elim hNe hFront

/-- Where colons stand in pairs, the first colon begins a group. -/
theorem exists_group {t : List Char} (hChars : ∀ c ∈ t, isNameChar c = true)
    (hFront : t.head? = some ':') (hPaired : ColonsPaired t) :
    ∃ w rest, t = [':', ':'] ++ w ++ rest ∧ IsWord w ∧
      (rest = [] ∨ rest.head? = some ':') ∧ ColonsPaired rest := by
  obtain ⟨hRuns, hLast⟩ := hPaired
  obtain ⟨run, more, rfl, hColons, hStop⟩ := exists_run (· == ':') t
  have hRun : ∀ c ∈ run, c = ':' := fun c hc => beq_iff_eq.1 (hColons c hc)
  have hMore : more.head? ≠ some ':' := fun h => absurd (hStop ':' h) (by decide)
  have hNe : run ≠ [] := by
    rintro rfl
    exact hMore hFront
  rw [colonRuns_append hRun hNe hMore, List.forall_mem_cons] at hRuns
  obtain rfl : run = List.replicate 2 ':' := List.eq_replicate_iff.2 ⟨hRuns.1, hRun⟩
  have hMoreNe : more ≠ [] := by
    rintro rfl
    exact hLast rfl
  obtain ⟨w, rest, rfl, hw, hRest⟩ :=
    exists_word (fun c hc => hChars c (List.mem_append_right _ hc)) hMoreNe hMore
  refine ⟨w, rest, (List.append_assoc ..).symm, hw, hRest, ?_, ?_⟩
  · rw [colonRuns_append_of_ne fun c hc => ne_colon_of_isWord (hw.2 c hc)] at hRuns
    exact hRuns.2
  · rcases hRest with rfl | hColon
    · exact fun h => absurd h (by decide)
    · have hRestNe : rest ≠ [] := by
        rintro rfl
        exact absurd hColon (by decide)
      rwa [← List.append_assoc, List.getLast?_append_of_ne_nil _ hRestNe] at hLast

/-- Name characters that begin with a colon and have their colons in pairs are
groups of a double colon and a word. -/
theorem exists_words {t : List Char} (hChars : ∀ c ∈ t, isNameChar c = true)
    (hFront : t = [] ∨ t.head? = some ':') (hPaired : ColonsPaired t) :
    ∃ words : List (List Char), (∀ w ∈ words, IsWord w) ∧
      t = words.flatMap ([':', ':'] ++ ·) := by
  induction hLen : t.length using Nat.strongRecOn generalizing t with
  | ind n ih =>
    rcases hFront with rfl | hColon
    · exact ⟨[], by simp, rfl⟩
    · obtain ⟨w, rest, rfl, hw, hRest, hRestPaired⟩ := exists_group hChars hColon hPaired
      have hShort : rest.length < n := by
        rw [← hLen, List.length_append, List.length_append, List.length_cons]
        omega
      have hRestChars : ∀ c ∈ rest, isNameChar c = true := fun c hc =>
        hChars c (List.mem_append_right _ hc)
      obtain ⟨words, hWords, rfl⟩ := ih _ hShort hRestChars hRest hRestPaired rfl
      exact ⟨w :: words, List.forall_mem_cons.2 ⟨hw, hWords⟩, by simp⟩

/-- A qualifier is a scope with a double colon. -/
theorem isQualified_iff {s : List Char} :
    IsQualified s ↔ ∃ scope ∈ ["std", "boost"], ∃ rest, rest ≠ [] ∧
      s = scope.toList ++ ([':', ':'] ++ rest) := by
  have hStd : "std::".toList = "std".toList ++ [':', ':'] := by decide
  have hBoost : "boost::".toList = "boost".toList ++ [':', ':'] := by decide
  have hBegins : ∀ q : List Char, (q <+: s ∧ q.length < s.length) ↔
      ∃ rest, rest ≠ [] ∧ s = q ++ rest := by
    intro q
    constructor
    · rintro ⟨⟨rest, rfl⟩, hLonger⟩
      refine ⟨rest, ?_, rfl⟩
      rintro rfl
      simp at hLonger
    · rintro ⟨rest, hRest, rfl⟩
      have hLength := List.length_pos_iff.2 hRest
      exact ⟨List.prefix_append _ _, by rw [List.length_append]; omega⟩
  simp only [IsQualified, List.exists_mem_cons_iff, List.not_mem_nil, false_and, exists_false,
    or_false, hBegins, hStd, hBoost, List.append_assoc]

theorem colonRuns_scope {scope : String} (hScope : scope ∈ ["std", "boost"]) (t : List Char) :
    colonRuns (scope.toList ++ t) = colonRuns t := by
  have hNoColon : ∀ scope ∈ ["std", "boost"], ∀ c ∈ scope.toList, c ≠ ':' := by decide
  exact colonRuns_append_of_ne (hNoColon scope hScope) t

/-- **Qualified names, told by their colons.** They are the texts of name
characters that a qualifier begins and whose colons stand in pairs. -/
theorem isQualifiedName_iff {s : List Char} :
    IsQualifiedName s ↔
      IsQualified s ∧ (∀ c ∈ s, isNameChar c = true) ∧ ColonsPaired s := by
  constructor
  · rintro ⟨scope, hScope, words, hNe, hWords, rfl⟩
    refine ⟨isQualified_iff.2 ?_, ?_, ?_, getLast?_groups hNe hWords _⟩
    · obtain ⟨w, words, rfl⟩ := List.exists_cons_of_ne_nil hNe
      have hw : w ≠ [] := (hWords w (List.mem_cons_self ..)).1
      exact ⟨scope, hScope, w ++ words.flatMap ([':', ':'] ++ ·),
        List.append_ne_nil_of_left_ne_nil hw _, by rw [List.flatMap_cons, List.append_assoc]⟩
    · have hScopes : ∀ scope ∈ ["std", "boost"], ∀ c ∈ scope.toList, isNameChar c = true := by
        decide
      intro c hc
      rcases List.mem_append.1 hc with hc | hc
      · exact hScopes scope hScope c hc
      · exact isNameChar_of_mem_groups hWords hc
    · rw [colonRuns_scope hScope]
      exact colonRuns_groups hWords
  · rintro ⟨hQualified, hChars, hRuns, hLast⟩
    obtain ⟨scope, hScope, rest, -, rfl⟩ := isQualified_iff.1 hQualified
    rw [colonRuns_scope hScope] at hRuns
    rw [List.getLast?_append_of_ne_nil _ (List.append_ne_nil_of_left_ne_nil (by decide) _)] at hLast
    obtain ⟨words, hWords, hSplit⟩ := exists_words
      (fun c hc => hChars c (List.mem_append_right _ hc)) (Or.inr rfl) ⟨hRuns, hLast⟩
    refine ⟨scope, hScope, words, ?_, hWords, by rw [hSplit]⟩
    rintro rfl
    exact List.append_ne_nil_of_left_ne_nil (by decide) _ hSplit

instance (s : List Char) : Decidable (IsQualifiedName s) :=
  have : Decidable (∀ c ∈ s, isNameChar c = true) := List.decidableBAll _ _
  decidable_of_iff _ isQualifiedName_iff.symm

-- ---------------------------------------------------------------------------
-- The symbols of a text
-- ---------------------------------------------------------------------------

/-- What holds of all used symbols holds of all that the runs contribute. -/
theorem forall_usages_iff {text : String} {P : List Char → Prop} :
    (∀ u ∈ usages text, P u.name.toList) ↔
      ∀ l ∈ Text.lines text.toList, ∀ run ∈ nameRuns l, ∀ s, runSymbol? run = some s → P s := by
  have hNames : ∀ name : String, name ∈ (usages text).map (·.name) ↔
      ∃ l ∈ Text.lines text.toList, ∃ run ∈ nameRuns l, runSymbol? run = some name.toList := by
    intro name
    rw [usages, mem_map_name_mentions]
    simp only [findAll_qualifiedSymbol, List.mem_map, List.mem_filterMap]
    constructor
    · rintro ⟨l, hl, s, ⟨run, hRun, hs⟩, rfl⟩
      exact ⟨l, hl, run, hRun, by rw [hs, String.toList_ofList]⟩
    · rintro ⟨l, hl, run, hRun, hs⟩
      exact ⟨l, hl, name.toList, ⟨run, hRun, hs⟩, String.ofList_toList⟩
  constructor
  · intro hAll l hl run hRun s hs
    have hUsed : String.ofList s ∈ (usages text).map (·.name) :=
      (hNames _).2 ⟨l, hl, run, hRun, by rw [hs, String.toList_ofList]⟩
    obtain ⟨u, hu, hSame⟩ := List.mem_map.1 hUsed
    have hHolds := hAll u hu
    rwa [hSame, String.toList_ofList] at hHolds
  · intro hAll u hu
    obtain ⟨l, hl, run, hRun, hs⟩ := (hNames u.name).1 (List.mem_map_of_mem hu)
    exact hAll l hl run hRun _ hs

theorem runSymbol?_eq_none_iff {run : List Char} :
    runSymbol? run = none ↔ ∀ t, t <:+ run → ¬ IsQualified t := by
  rw [runSymbol?, List.find?_eq_none]
  simp only [List.mem_tails, decide_eq_true_eq]

/--
**When all used symbols are qualified names.** Every symbol begins with a
qualifier and goes on with name characters. It is a qualified name if and only
if its colons stand in pairs. So the symbols of a text are qualified names if
and only if the colons stand in pairs in what its runs contribute.
-/
theorem usages_qualifiedName_iff (text : String) :
    (∀ u ∈ usages text, IsQualified u.name.toList ∧
      ∀ c ∈ u.name.toList, Text.isWord c = true ∨ c = ':') ∧
    (∀ u ∈ usages text, (IsQualifiedName u.name.toList ↔ ColonsPaired u.name.toList)) ∧
    ((∀ u ∈ usages text, IsQualifiedName u.name.toList) ↔
      ∀ l ∈ Text.lines text.toList, ∀ run ∈ nameRuns l, ∀ s, runSymbol? run = some s →
        ColonsPaired s) := by
  have hShape : ∀ u ∈ usages text, IsQualified u.name.toList ∧
      ∀ c ∈ u.name.toList, isNameChar c = true := by
    intro u hu
    obtain ⟨l, -, hFound⟩ := mem_map_name_mentions.1 (List.mem_map_of_mem hu)
    exact isQualified_of_mem_findAll hFound
  have hName : ∀ u ∈ usages text,
      (IsQualifiedName u.name.toList ↔ ColonsPaired u.name.toList) := by
    intro u hu
    obtain ⟨hQualified, hChars⟩ := hShape u hu
    rw [isQualifiedName_iff, and_iff_right hQualified, and_iff_right hChars]
  refine ⟨fun u hu => ⟨(hShape u hu).1, fun c hc => ?_⟩, hName, ?_⟩
  · simpa [isNameChar] using (hShape u hu).2 c hc
  · rw [← forall_usages_iff]
    exact forall₂_congr hName

/-- The colon of a label belongs to the symbol in front of it. -/
theorem usages_label :
    usages "case std::nullopt:" = [⟨"std::nullopt:", 1⟩] ∧
    ¬ IsQualifiedName "std::nullopt:".toList :=
  ⟨by decide +kernel, by decide +kernel⟩

/-- **When a text uses no symbol**: no qualifier stands anywhere in a run with
a character of the run behind it. -/
theorem usages_eq_nil_iff (text : String) :
    usages text = [] ↔
      ∀ l ∈ Text.lines text.toList, ∀ run ∈ nameRuns l, ∀ t, t <:+ run → ¬ IsQualified t := by
  have hNone : usages text = [] ↔ ∀ u ∈ usages text, False := List.eq_nil_iff_forall_not_mem
  rw [hNone, forall_usages_iff (P := fun _ => False)]
  simp only [← runSymbol?_eq_none_iff, Option.eq_none_iff_forall_ne_some]

/-- The run begins with a qualifier, perhaps behind a double colon. -/
def BeginsQualified (run : List Char) : Prop :=
  ∃ q ∈ qualifiers, q.toList <+: run ∨ ("::" ++ q).toList <+: run

instance (run : List Char) : Decidable (BeginsQualified run) :=
  inferInstanceAs (Decidable (∃ q ∈ qualifiers, _ ∨ _))

/-- A name of another namespace is a used symbol where a qualifier ends that
namespace's name. -/
theorem usages_otherNamespace :
    (∀ l ∈ Text.lines "mystd::x".toList, ∀ run ∈ nameRuns l, ¬ BeginsQualified run) ∧
    usages "mystd::x" = [⟨"std::x", 1⟩] :=
  ⟨by decide +kernel, by decide +kernel⟩

end SourceLint
