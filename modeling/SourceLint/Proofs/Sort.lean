import Mathlib.Data.List.Sort
import SourceLint.Sort

/-!
# Sorting — what a stable sort is, and when it has groups

A stable sort orders a list and moves no element past one that stands both
ways with it. There is only one such list (`IsStableSort.unique`), so whatever
arrangement of the elements is sorted in that sense is the one that `sortBy`
computes.

A list that is put together from groups, each with one key that no other group
has, is sorted by sorting the groups: it does not matter in which order they
were put together.

* `isStableSort_sortBy`   — `sortBy` sorts stably.
* `IsStableSort.unique`   — a list has one stable sort.
* `filter_sortBy`         — sorting and leaving out commute.
* `isStableSort_flatMap`  — sorted groups make a sorted list.
-/

namespace SourceLint

variable {α β γ : Type} {le : α → α → Bool}

-- ---------------------------------------------------------------------------
-- The specification
-- ---------------------------------------------------------------------------

/-- The two elements stand both ways in the order. -/
def tied (le : α → α → Bool) (a b : α) : Bool :=
  le a b && le b a

/-- `bs` has the elements of `as` in the order of `le`, and elements that are
tied follow each other as they do in `as`. -/
structure IsStableSort (le : α → α → Bool) (as bs : List α) : Prop where
  perm   : bs.Perm as
  sorted : bs.Pairwise fun a b => le a b = true
  stable : ∀ a, bs.filter (tied le a) = as.filter (tied le a)

theorem tied_iff {a b : α} : tied le a b = true ↔ le a b = true ∧ le b a = true := by
  rw [tied, Bool.and_eq_true]

/-- `sortBy` is the insertion sort of the library. -/
theorem sortBy_eq_insertionSort (as : List α) :
    sortBy le as = as.insertionSort fun a b => le a b = true := by
  have hInsert : ∀ (a : α) (bs : List α),
      insertBy le a bs = bs.orderedInsert (fun a b => le a b = true) a := by
    intro a bs
    induction bs with
    | nil => rfl
    | cons b bs ih => rw [insertBy, List.orderedInsert_cons, ih]
  induction as with
  | nil => rfl
  | cons a as ih => rw [sortBy, hInsert, ih, List.insertionSort_cons]

/-- The images of elements are sorted like the elements. -/
theorem sortBy_map (g : β → α) (bs : List β) :
    sortBy le (bs.map g) = (sortBy (fun b c => le (g b) (g c)) bs).map g := by
  have hInsert : ∀ (b : β) (cs : List β),
      insertBy le (g b) (cs.map g) = (insertBy (fun b c => le (g b) (g c)) b cs).map g := by
    intro b cs
    induction cs with
    | nil => rfl
    | cons c cs ih =>
      rw [List.map_cons, insertBy, insertBy, apply_ite (List.map g), ih]
      rfl
  induction bs with
  | nil => rfl
  | cons b bs ih => rw [List.map_cons, sortBy, ih, hInsert, sortBy]

section Order

variable [hTotal : Std.Total fun a b => le a b = true]

-- ---------------------------------------------------------------------------
-- A list has one stable sort
-- ---------------------------------------------------------------------------

theorem tied_refl (a : α) : tied le a a = true := by
  have h := hTotal.total a a
  rw [or_self] at h
  exact tied_iff.2 ⟨h, h⟩

theorem mem_of_filter_tied_eq {bs cs : List α}
    (h : ∀ a, bs.filter (tied le a) = cs.filter (tied le a)) {a : α} (ha : a ∈ bs) : a ∈ cs := by
  have hOwn : a ∈ bs.filter (tied le a) := List.mem_filter.2 ⟨ha, tied_refl a⟩
  rw [h a] at hOwn
  exact List.mem_of_mem_filter hOwn

theorem le_of_mem_sorted {a b : α} {bs : List α}
    (hSorted : (b :: bs).Pairwise fun a b => le a b = true) (ha : a ∈ b :: bs) : le b a = true := by
  rcases List.mem_cons.1 ha with rfl | ha
  · exact (tied_iff.1 (tied_refl a)).1
  · exact List.rel_of_pairwise_cons hSorted ha

/-- Two sorted lists are equal if tied elements follow each other in the same
way in both. -/
theorem eq_of_filter_tied_eq {bs cs : List α} (hb : bs.Pairwise fun a b => le a b = true)
    (hc : cs.Pairwise fun a b => le a b = true)
    (h : ∀ a, bs.filter (tied le a) = cs.filter (tied le a)) : bs = cs := by
  induction bs generalizing cs with
  | nil =>
    cases cs with
    | nil => rfl
    | cons c cs =>
      have hMem := mem_of_filter_tied_eq (fun a => (h a).symm) (List.mem_cons_self ..)
      exact absurd hMem List.not_mem_nil
  | cons b bs ih =>
    cases cs with
    | nil =>
      have hMem := mem_of_filter_tied_eq h (List.mem_cons_self ..)
      exact absurd hMem List.not_mem_nil
    | cons c cs =>
      -- the first elements are least in both lists, so they are tied
      have hTied : tied le b c = true := by
        refine tied_iff.2 ⟨le_of_mem_sorted hb ?_, le_of_mem_sorted hc ?_⟩
        · exact mem_of_filter_tied_eq (fun a => (h a).symm) (List.mem_cons_self ..)
        · exact mem_of_filter_tied_eq h (List.mem_cons_self ..)
      have hHead := h b
      rw [List.filter_cons_of_pos (tied_refl b), List.filter_cons_of_pos hTied,
        List.cons.injEq] at hHead
      obtain ⟨rfl, -⟩ := hHead
      congr 1
      refine ih hb.of_cons hc.of_cons fun a => ?_
      have hRest := h a
      rw [List.filter_cons, List.filter_cons] at hRest
      split at hRest
      · exact (List.cons.inj hRest).2
      · exact hRest

/-- **A list has one stable sort.** -/
theorem IsStableSort.unique {as bs cs : List α} (hb : IsStableSort le as bs)
    (hc : IsStableSort le as cs) : bs = cs :=
  eq_of_filter_tied_eq hb.sorted hc.sorted fun a => (hb.stable a).trans (hc.stable a).symm

variable [hTrans : IsTrans α fun a b => le a b = true]

-- ---------------------------------------------------------------------------
-- `sortBy` sorts stably
-- ---------------------------------------------------------------------------

omit hTotal in
/-- An insertion puts the element in front of those that are tied with it. -/
theorem filter_tied_insertBy (a b : α) (bs : List α) :
    (insertBy le b bs).filter (tied le a) = (b :: bs).filter (tied le a) := by
  induction bs with
  | nil => rfl
  | cons c bs ih =>
    rw [insertBy]
    split
    case isTrue => rfl
    case isFalse hPassed =>
      rw [List.filter_cons, ih]
      by_cases hb : tied le a b = true
      · -- whatever `b` passes is less than `b`, so it cannot be tied with `a`
        have hc : ¬ tied le a c = true := by
          intro hc
          rw [tied_iff] at hb hc
          exact hPassed (hTrans.trans b a c hb.2 hc.1)
        rw [if_neg hc, List.filter_cons_of_pos hb, List.filter_cons_of_pos hb,
          List.filter_cons_of_neg hc]
      · rw [List.filter_cons_of_neg hb, List.filter_cons_of_neg hb, List.filter_cons]

theorem isStableSort_sortBy (as : List α) : IsStableSort le as (sortBy le as) where
  perm := sortBy_perm as
  sorted := by
    rw [sortBy_eq_insertionSort]
    exact List.pairwise_insertionSort _ as
  stable := by
    intro a
    induction as with
    | nil => rfl
    | cons b as ih => rw [sortBy, filter_tied_insertBy, List.filter_cons, ih, List.filter_cons]

/-- **Sorting and leaving out commute.** -/
theorem filter_sortBy (p : α → Bool) (as : List α) :
    (sortBy le as).filter p = sortBy le (as.filter p) := by
  have hSort : IsStableSort le as (sortBy le as) := isStableSort_sortBy as
  have hKept : IsStableSort le (as.filter p) ((sortBy le as).filter p) := by
    refine ⟨hSort.perm.filter p, hSort.sorted.filter p, fun a => ?_⟩
    rw [List.filter_comm, hSort.stable a, List.filter_comm]
  exact hKept.unique (isStableSort_sortBy _)

omit hTrans in
theorem total_key (key : γ → α) : Std.Total fun c d => le (key c) (key d) = true :=
  ⟨fun c d => hTotal.total (key c) (key d)⟩

omit hTotal in
theorem trans_key (key : γ → α) : IsTrans γ fun c d => le (key c) (key d) = true :=
  ⟨fun c d e => hTrans.trans (key c) (key d) (key e)⟩

/-- What is sorted by a key is in the order of the keys. -/
theorem pairwise_sortBy_key (key : γ → α) (cs : List γ) :
    (sortBy (fun c d => le (key c) (key d)) cs).Pairwise fun c d => le (key c) (key d) = true := by
  have hKeyTotal : Std.Total fun c d => le (key c) (key d) = true := total_key key
  have hKeyTrans : IsTrans γ fun c d => le (key c) (key d) = true := trans_key key
  exact (isStableSort_sortBy cs).sorted

/-- Elements may be left out before or after they are sorted by a key. -/
theorem filter_sortBy_key (key : γ → α) (p : γ → Bool) (cs : List γ) :
    (sortBy (fun c d => le (key c) (key d)) cs).filter p =
      sortBy (fun c d => le (key c) (key d)) (cs.filter p) := by
  have hKeyTotal : Std.Total fun c d => le (key c) (key d) = true := total_key key
  have hKeyTrans : IsTrans γ fun c d => le (key c) (key d) = true := trans_key key
  exact filter_sortBy p cs

-- ---------------------------------------------------------------------------
-- Lists in groups
-- ---------------------------------------------------------------------------

/-- Groups that are kept or left out as a whole. -/
theorem filter_flatMap_of_const {f : γ → List β} {p : β → Bool} {q : γ → Bool}
    (h : ∀ c, ∀ b ∈ f c, p b = q c) (cs : List γ) :
    (cs.flatMap f).filter p = (cs.filter q).flatMap f := by
  induction cs with
  | nil => rfl
  | cons c cs ih =>
    rw [List.flatMap_cons, List.filter_append, ih]
    cases hc : q c with
    | true =>
      have hAll : (f c).filter p = f c := List.filter_eq_self.2 fun b hb => (h c b hb).trans hc
      rw [hAll, List.filter_cons_of_pos hc, List.flatMap_cons]
    | false =>
      have hNone : (f c).filter p = [] :=
        List.filter_eq_nil_iff.2 fun b hb => by simp [h c b hb, hc]
      rw [hNone, List.filter_cons_of_neg (by simp [hc]), List.nil_append]

/-- The parts that belong to the keys make up the list. -/
theorem perm_flatMap_filter {α κ : Type} [DecidableEq κ] (key : α → κ) {ks : List κ}
    (hKeys : ks.Nodup) {as : List α} (hAll : ∀ a ∈ as, key a ∈ ks) :
    (ks.flatMap fun k => as.filter (key · = k)).Perm as := by
  induction ks generalizing as with
  | nil =>
    have hNil : as = [] := List.eq_nil_iff_forall_not_mem.2 fun a ha =>
      List.not_mem_nil (hAll a ha)
    rw [hNil]
    exact .refl _
  | cons k ks ih =>
    rw [List.nodup_cons] at hKeys
    -- what is left without the first part is made up by the others
    have hRest : (ks.flatMap fun k' => as.filter (key · = k')).Perm
        (as.filter fun a => !decide (key a = k)) := by
      have hLeft : ∀ a ∈ as.filter fun a => !decide (key a = k), key a ∈ ks := by
        intro a ha
        obtain ⟨hMem, hNe⟩ := List.mem_filter.1 ha
        exact (List.mem_cons.1 (hAll a hMem)).resolve_left (by simpa using hNe)
      refine (List.Perm.of_eq ?_).trans (ih hKeys.2 hLeft)
      apply List.flatMap_congr
      intro k' hk'
      rw [List.filter_filter]
      apply List.filter_congr
      intro a _
      have hNe : key a = k' → key a ≠ k := by
        rintro rfl rfl
        exact hKeys.1 hk'
      by_cases ha : key a = k'
      · simp [ha, ha ▸ hNe ha]
      · simp [ha]
    rw [List.flatMap_cons]
    exact (hRest.append_left _).trans (List.filter_append_perm _ _)

/-- Of two lists with the same elements, what is made of them is the same if at
most one element contributes. -/
theorem flatMap_eq_of_perm {cs ds : List γ} {f : γ → List β} (hPerm : cs.Perm ds)
    (hOne : cs.Pairwise fun c d => f c = [] ∨ f d = []) : cs.flatMap f = ds.flatMap f := by
  induction hPerm with
  | nil => rfl
  | cons c _ ih => rw [List.flatMap_cons, List.flatMap_cons, ih hOne.of_cons]
  | swap c d cs =>
    rw [List.flatMap_cons, List.flatMap_cons, List.flatMap_cons, List.flatMap_cons]
    rcases List.rel_of_pairwise_cons hOne (List.mem_cons_self ..) with h | h <;> simp [h]
  | trans hFirst _ ih₁ ih₂ =>
    have hOne' := hFirst.pairwise hOne fun h => h.symm
    rw [ih₁ hOne, ih₂ hOne']

/-- **Sorted groups make a sorted list.** The elements of a group all have its
key, and no two groups have keys that are tied. -/
theorem isStableSort_flatMap {keyOf : β → α} {key : γ → α} {f : γ → List β} {cs ds : List γ}
    (hKey : ∀ c, ∀ b ∈ f c, keyOf b = key c) (hPerm : ds.Perm cs)
    (hSorted : ds.Pairwise fun c d => le (key c) (key d) = true)
    (hApart : cs.Pairwise fun c d => tied le (key c) (key d) = false) :
    IsStableSort (fun a b => le (keyOf a) (keyOf b)) (cs.flatMap f) (ds.flatMap f) where
  perm := hPerm.flatMap_right f
  sorted := by
    rw [List.pairwise_flatMap]
    constructor
    · intro c _
      apply List.pairwise_of_forall_mem_list
      intro a ha b hb
      rw [hKey c a ha, hKey c b hb]
      exact (tied_iff.1 (tied_refl _)).1
    · refine hSorted.imp ?_
      intro c d hcd a ha b hb
      rwa [hKey c a ha, hKey d b hb]
  stable := by
    intro b
    rw [List.filter_flatMap, List.filter_flatMap]
    refine (flatMap_eq_of_perm hPerm.symm (hApart.imp ?_)).symm
    intro c d hcd
    by_contra hBoth
    rw [not_or] at hBoth
    obtain ⟨x, hx⟩ := List.exists_mem_of_ne_nil _ hBoth.1
    obtain ⟨y, hy⟩ := List.exists_mem_of_ne_nil _ hBoth.2
    rw [List.mem_filter, tied_iff] at hx hy
    rw [hKey c x hx.1] at hx
    rw [hKey d y hy.1] at hy
    have hTied : tied le (key c) (key d) = true :=
      tied_iff.2 ⟨hTrans.trans _ _ _ hx.2.2 hy.2.1, hTrans.trans _ _ _ hy.2.2 hx.2.1⟩
    rw [hcd] at hTied
    exact Bool.false_ne_true hTied

end Order

end SourceLint
