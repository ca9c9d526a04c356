import Mathlib.Data.Finset.Card
import Mathlib.Data.String.Basic
import SourceLint.Proofs.Knowledge.Lookup
import SourceLint.Proofs.Sort

/-!
# Queries — five views of the same entries

Knowledge can be asked for the header of a symbol, and it can be listed: by
symbol, by header, and by symbol for one header. Each list is made from the
entries by itself. What ties the views together is that no symbol has two
entries (`Knowledge.Distinct`); the order in which the entries are kept does
not matter to any of them.

* `mem_entries_iff`      — an entry is an answer.
* `mem_sorted_iff`, `mem_symbolsFor_iff`, `mem_headers_iff` — the lists told by
  the answers.
* `perm_flatMap_symbolsFor` — the lists of the headers make up all symbols.
* `agree_of_perm`        — all views agree with the list that was given.
-/

namespace SourceLint.Knowledge

/-- No symbol has two entries. -/
def Distinct (k : Knowledge) : Prop :=
  (k.entries.map Prod.fst).Nodup

/-- The views of the knowledge agree with each other and with the entries that
it was made from. -/
structure Agrees (entries : List (String × String)) (k : Knowledge) : Prop where
  /-- The answer for a symbol is the header of its first entry. -/
  lookup_some : ∀ s h, k.lookup s = some h ↔
    ∃ before behind, entries = before ++ (s, h) :: behind ∧ s ∉ before.map Prod.fst
  /-- There is no answer for a symbol without an entry. -/
  lookup_none : ∀ s, k.lookup s = none ↔ s ∉ entries.map Prod.fst
  sorted_increasing : k.sorted.Pairwise fun e e' => e.1 < e'.1
  mem_sorted : ∀ s h, (s, h) ∈ k.sorted ↔ k.lookup s = some h
  size_sorted : k.size = k.sorted.length
  size_symbols : k.size = (entries.map Prod.fst).toFinset.card
  isEmpty_iff : k.isEmpty = true ↔ k.size = 0
  symbolsFor_increasing : ∀ h, (k.symbolsFor h).Pairwise (· < ·)
  mem_symbolsFor : ∀ h s, s ∈ k.symbolsFor h ↔ k.lookup s = some h
  headers_increasing : k.headers.Pairwise (· < ·)
  mem_headers : ∀ h, h ∈ k.headers ↔ k.symbolsFor h ≠ []
  /-- Every symbol that is listed is in the list of exactly one header. -/
  parts : (k.headers.flatMap k.symbolsFor).Perm (k.sorted.map Prod.fst)
  parts_disjoint : k.headers.Pairwise fun h h' => (k.symbolsFor h).Disjoint (k.symbolsFor h')
  /-- A header all of whose entries come behind another entry of their symbol
  is in no answer. -/
  shadowed : ∀ h, (∀ before s behind, entries = before ++ (s, h) :: behind →
      s ∈ before.map Prod.fst) →
    (∀ s, k.lookup s ≠ some h) ∧ (∀ s, (s, h) ∉ k.sorted) ∧ k.symbolsFor h = [] ∧ h ∉ k.headers

variable {k : Knowledge} {entries : List (String × String)} {s h : String}

-- ---------------------------------------------------------------------------
-- Answers
-- ---------------------------------------------------------------------------

/-- **An entry is an answer**: the symbol has no other. -/
theorem mem_entries_iff (hk : k.Distinct) : (s, h) ∈ k.entries ↔ k.lookup s = some h := by
  rw [lookup, List.lookup_eq_some_iff]
  constructor
  · intro hMem
    obtain ⟨before, behind, hSplit⟩ := List.append_of_mem hMem
    refine ⟨before, behind, hSplit, fun e he => bne_iff_ne.2 ?_⟩
    rintro rfl
    rw [Distinct, hSplit, List.map_append, List.nodup_append] at hk
    exact hk.2.2 e.1 (List.mem_map_of_mem he) e.1 (List.mem_cons_self ..) rfl
  · rintro ⟨before, behind, hSplit, -⟩
    rw [hSplit]
    exact List.mem_append_right _ (List.mem_cons_self ..)

theorem lookup_eq_none_iff : k.lookup s = none ↔ s ∉ k.entries.map Prod.fst := by
  rw [lookup, List.lookup_eq_none_iff, List.mem_map]
  simp only [bne_iff_ne, not_exists, not_and, ne_comm]

-- ---------------------------------------------------------------------------
-- The list by symbol
-- ---------------------------------------------------------------------------

theorem mem_sorted {e : String × String} : e ∈ k.sorted ↔ e ∈ k.entries :=
  (sortBy_perm k.entries).mem_iff

theorem mem_sorted_iff (hk : k.Distinct) : (s, h) ∈ k.sorted ↔ k.lookup s = some h :=
  mem_sorted.trans (mem_entries_iff hk)

/-- What is in order by a key and has no key twice is increasing. -/
theorem pairwise_lt_of_nodup {α : Type} {key : α → String} {as : List α}
    (hSorted : as.Pairwise fun a b => key a ≤ key b) (hNodup : (as.map key).Nodup) :
    as.Pairwise fun a b => key a < key b := by
  refine (hSorted.and (List.pairwise_map.1 hNodup)).imp ?_
  rintro a b ⟨hLe, hNe⟩
  exact lt_of_le_of_ne hLe hNe

instance : Std.Total fun s t : String => decide (s ≤ t) = true :=
  ⟨fun s t => by simpa only [decide_eq_true_eq] using String.le_total s t⟩

instance : IsTrans String fun s t => decide (s ≤ t) = true :=
  ⟨fun _ _ _ hst htu =>
    decide_eq_true (String.le_trans (of_decide_eq_true hst) (of_decide_eq_true htu))⟩

theorem sorted_increasing (hk : k.Distinct) : k.sorted.Pairwise fun e e' => e.1 < e'.1 := by
  have hSorted := @pairwise_sortBy_key String _ (fun s t => s ≤ t) _ _ Prod.fst k.entries
  simp only [decide_eq_true_eq] at hSorted
  refine pairwise_lt_of_nodup hSorted ?_
  exact ((sortBy_perm k.entries).map Prod.fst).nodup_iff.2 hk

-- ---------------------------------------------------------------------------
-- The lists of the headers
-- ---------------------------------------------------------------------------

theorem mem_symbolsFor_iff (hk : k.Distinct) : s ∈ k.symbolsFor h ↔ k.lookup s = some h := by
  rw [← mem_sorted_iff hk, symbolsFor, List.mem_map]
  constructor
  · rintro ⟨⟨s', h'⟩, he, rfl⟩
    obtain ⟨hMem, hHeader⟩ := List.mem_filter.1 he
    obtain rfl := of_decide_eq_true hHeader
    exact hMem
  · intro hMem
    exact ⟨(s, h), List.mem_filter.2 ⟨hMem, decide_eq_true rfl⟩, rfl⟩

theorem symbolsFor_increasing (hk : k.Distinct) (h : String) :
    (k.symbolsFor h).Pairwise (· < ·) := by
  rw [symbolsFor, List.pairwise_map]
  exact (sorted_increasing hk).filter _

theorem mem_headers_iff (hk : k.Distinct) : h ∈ k.headers ↔ k.symbolsFor h ≠ [] := by
  rw [headers, (sortBy_perm _).mem_iff, mem_distinctOn_id, List.mem_map]
  constructor
  · rintro ⟨⟨s, h⟩, he, rfl⟩
    exact List.ne_nil_of_mem ((mem_symbolsFor_iff hk).2 ((mem_entries_iff hk).1 he))
  · intro hSome
    obtain ⟨s, hs⟩ := List.exists_mem_of_ne_nil _ hSome
    exact ⟨(s, h), (mem_entries_iff hk).2 ((mem_symbolsFor_iff hk).1 hs), rfl⟩

theorem headers_increasing (k : Knowledge) : k.headers.Pairwise (· < ·) := by
  have hSorted : k.headers.Pairwise fun h h' => decide (h ≤ h') = true :=
    (isStableSort_sortBy _).sorted
  simp only [decide_eq_true_eq] at hSorted
  have hNodup : ((distinctOn id (k.entries.map Prod.snd)).map id).Nodup := nodup_map_distinctOn _
  have hHeaders : (k.headers.map id).Nodup := ((sortBy_perm _).map id).nodup_iff.2 hNodup
  exact pairwise_lt_of_nodup hSorted hHeaders

/-- **The lists of the headers make up all symbols.** -/
theorem perm_flatMap_symbolsFor (hk : k.Distinct) :
    (k.headers.flatMap k.symbolsFor).Perm (k.sorted.map Prod.fst) := by
  have hNodup : k.headers.Nodup := k.headers_increasing.imp ne_of_lt
  have hKnown : ∀ e ∈ k.sorted, e.2 ∈ k.headers := by
    rintro ⟨s, h⟩ he
    rw [mem_headers_iff hk]
    exact List.ne_nil_of_mem ((mem_symbolsFor_iff hk).2 ((mem_sorted_iff hk).1 he))
  have hParts := (perm_flatMap_filter Prod.snd hNodup hKnown).map Prod.fst
  rwa [List.map_flatMap] at hParts

theorem symbolsFor_disjoint (hk : k.Distinct) {h h' : String} (hNe : h ≠ h') :
    (k.symbolsFor h).Disjoint (k.symbolsFor h') := by
  intro s hs hs'
  rw [mem_symbolsFor_iff hk] at hs hs'
  exact hNe (Option.some.inj (hs.symm.trans hs'))

-- ---------------------------------------------------------------------------
-- Knowledge made from entries
-- ---------------------------------------------------------------------------

theorem distinct_of_perm (hPerm : k.entries.Perm (ofEntries entries).entries) : k.Distinct :=
  (hPerm.map Prod.fst).nodup_iff.2 (nodup_map_distinctOn entries)

/--
**All views agree**, with each other and with the list of entries, in whatever
order the entries that count are kept: the first entry of a symbol gives its
answer; the list by symbol and the lists of the headers are increasing and say
what the answers say; the headers are those that have a symbol; and every
symbol belongs to one of them. A header whose entries are all shadowed by an
earlier entry of their symbol is in none of the views.
-/
theorem agree_of_perm (entries : List (String × String)) (k : Knowledge)
    (hPerm : k.entries.Perm (ofEntries entries).entries) : Agrees entries k := by
  have hk : k.Distinct := distinct_of_perm hPerm
  have hSymbols : ∀ s, s ∈ k.entries.map Prod.fst ↔ s ∈ entries.map Prod.fst := fun s =>
    (hPerm.map Prod.fst).mem_iff.trans mem_map_distinctOn
  have hLookup : ∀ s h, k.lookup s = some h ↔
      ∃ before behind, entries = before ++ (s, h) :: behind ∧ s ∉ before.map Prod.fst := by
    intro s h
    rw [← mem_entries_iff hk, hPerm.mem_iff, ofEntries, mem_distinctOn_iff]
  have hSize : k.size = (entries.map Prod.fst).toFinset.card := by
    have hSame : (entries.map Prod.fst).toFinset = (k.entries.map Prod.fst).toFinset := by
      ext s
      rw [List.mem_toFinset, List.mem_toFinset, hSymbols]
    rw [hSame, List.toFinset_card_of_nodup hk, List.length_map, size]
  refine ⟨hLookup, ?_, sorted_increasing hk, fun _ _ => mem_sorted_iff hk, ?_, hSize, ?_,
    symbolsFor_increasing hk, fun _ _ => mem_symbolsFor_iff hk, k.headers_increasing,
    fun _ => mem_headers_iff hk, perm_flatMap_symbolsFor hk, ?_, ?_⟩
  · intro s
    rw [lookup_eq_none_iff, hSymbols]
  · exact (sortBy_perm k.entries).length_eq.symm
  · rw [isEmpty, size, List.isEmpty_iff, List.length_eq_zero_iff]
  · exact k.headers_increasing.imp fun hLess => symbolsFor_disjoint hk (ne_of_lt hLess)
  · intro h hShadowed
    have hNone : ∀ s, k.lookup s ≠ some h := by
      intro s hSome
      obtain ⟨before, behind, hSplit, hFirst⟩ := (hLookup s h).1 hSome
      exact hFirst (hShadowed before s behind hSplit)
    have hEmpty : k.symbolsFor h = [] := List.eq_nil_iff_forall_not_mem.2 fun s hs =>
      hNone s ((mem_symbolsFor_iff hk).1 hs)
    exact ⟨hNone, fun s hs => hNone s ((mem_sorted_iff hk).1 hs), hEmpty,
      fun hMem => (mem_headers_iff hk).1 hMem hEmpty⟩

/-- Entries that name one symbol twice, so that `z` is shadowed. -/
def repeating : List (String × String) :=
  [("std::b", "x"), ("std::a", "y"), ("std::b", "z"), ("std::c", "x")]

/-- The entries that count, in another order. -/
def reordered : Knowledge :=
  ⟨[("std::c", "x"), ("std::b", "x"), ("std::a", "y")]⟩

/-- All views of the entries that count, whatever their order. -/
theorem agree_of_perm_repeating :
    reordered.entries.Perm (ofEntries repeating).entries ∧ Agrees repeating reordered ∧
    reordered.sorted = [("std::a", "y"), ("std::b", "x"), ("std::c", "x")] ∧
    reordered.headers = ["x", "y"] ∧ reordered.symbolsFor "x" = ["std::b", "std::c"] ∧
    reordered.symbolsFor "z" = [] := by
  have hPerm : reordered.entries.Perm (ofEntries repeating).entries := by decide +kernel
  exact ⟨hPerm, agree_of_perm repeating reordered hPerm, by decide +kernel, by decide +kernel,
    by decide +kernel, by decide +kernel⟩

end SourceLint.Knowledge
