import SourceLint.FileTree
import SourceLint.Proofs.Path.Tidy

/-!
# File trees — what lies where

In a well-formed tree the names of a directory increase and none of them means
anything else to a path, so a list of names leads to one thing at most. The
listing of a tree has exactly the things that names lead to (`mem_listing`),
and all that lies below a path is that listing, seen from the path
(`contents_eq`).

* `WellFormed`   — what holds of every tree of a file system.
* `at?`          — what some names lead to.
* `mem_listing`  — the listing is complete.
* `contents_eq`  — the contents of a path are a listing.
-/

namespace SourceLint.FileTree

-- ---------------------------------------------------------------------------
-- Well-formed trees
-- ---------------------------------------------------------------------------

/-- What holds of every file, and of a directory if it holds of all its
entries, holds of every tree. -/
theorem induction {motive : FileTree → Prop} (file : ∀ content, motive (.file content))
    (dir : ∀ entries, (∀ e ∈ entries, motive e.2) → motive (.dir entries)) :
    ∀ t, motive t
  | .file content => file content
  | .dir entries => dir entries fun e he =>
      have : sizeOf e.2 < 1 + sizeOf entries := by
        have hMem := List.sizeOf_lt_of_mem he
        have hPair : sizeOf e.2 < sizeOf e := by
          obtain ⟨name, t⟩ := e
          simp only [Prod.mk.sizeOf_spec]
          omega
        omega
      induction file dir e.2
termination_by t => sizeOf t

/-- A name that can stand in a directory: a path that is continued by it leads
to its entry. -/
def IsEntryName (name : String) : Prop :=
  name ≠ "" ∧ name ≠ "." ∧ name ≠ ".." ∧ '/' ∉ name.toList

/-- All names in the tree can stand in a directory. -/
inductive WellNamed : FileTree → Prop
  | file (content : ByteArray) : WellNamed (.file content)
  | dir {entries : List (String × FileTree)}
      (name : ∀ e ∈ entries, IsEntryName e.1) (below : ∀ e ∈ entries, WellNamed e.2) :
      WellNamed (.dir entries)

/-- What holds of every tree of a file system. -/
structure WellFormed (t : FileTree) : Prop where
  ordered : t.Ordered
  named   : t.WellNamed

theorem orderedEntries_iff {entries : List (String × FileTree)} :
    OrderedEntries entries ↔ ∀ e ∈ entries, e.2.Ordered := by
  induction entries with
  | nil => simp [OrderedEntries]
  | cons e entries ih =>
    obtain ⟨name, t⟩ := e
    rw [OrderedEntries, ih, List.forall_mem_cons]

theorem wellFormed_dir_iff {entries : List (String × FileTree)} :
    (dir entries).WellFormed ↔
      (entries.map Prod.fst).Pairwise (· < ·) ∧
        ∀ e ∈ entries, IsEntryName e.1 ∧ e.2.WellFormed := by
  constructor
  · intro h
    obtain ⟨hOrdered, hNamed⟩ := h
    rw [Ordered, orderedEntries_iff] at hOrdered
    cases hNamed with
    | dir hName hBelow =>
      exact ⟨hOrdered.1, fun e he => ⟨hName e he, hOrdered.2 e he, hBelow e he⟩⟩
  · intro h
    obtain ⟨hIncreasing, hEntries⟩ := h
    refine ⟨?_, .dir (fun e he => (hEntries e he).1) fun e he => (hEntries e he).2.named⟩
    rw [Ordered, orderedEntries_iff]
    exact ⟨hIncreasing, fun e he => (hEntries e he).2.ordered⟩

instance (name : String) : Decidable (IsEntryName name) :=
  inferInstanceAs (Decidable (_ ∧ _ ∧ _ ∧ _))

mutual

/-- Well-formedness, as a test. -/
def isWellFormed : FileTree → Bool
  | .file _ => true
  | .dir entries => (entries.map Prod.fst).Pairwise (· < ·) && areWellFormed entries

def areWellFormed : List (String × FileTree) → Bool
  | [] => true
  | (name, t) :: rest => IsEntryName name && isWellFormed t && areWellFormed rest

end

theorem areWellFormed_iff {entries : List (String × FileTree)} :
    areWellFormed entries = true ↔
      ∀ e ∈ entries, IsEntryName e.1 ∧ e.2.isWellFormed = true := by
  induction entries with
  | nil => simp [areWellFormed]
  | cons e entries ih =>
    obtain ⟨name, t⟩ := e
    rw [areWellFormed, Bool.and_eq_true, Bool.and_eq_true, decide_eq_true_eq, ih,
      List.forall_mem_cons]

theorem isWellFormed_iff (t : FileTree) : t.isWellFormed = true ↔ t.WellFormed := by
  induction t using induction with
  | file content => exact iff_of_true rfl ⟨trivial, .file content⟩
  | dir entries ih =>
    rw [isWellFormed, Bool.and_eq_true, decide_eq_true_eq, areWellFormed_iff, wellFormed_dir_iff]
    exact and_congr_right fun _ => forall₂_congr fun e he => and_congr_right fun _ => ih e he

instance (t : FileTree) : Decidable t.WellFormed :=
  decidable_of_iff _ (isWellFormed_iff t)

section Entries

variable {entries : List (String × FileTree)} {e : String × FileTree} {name : String}
  {child : FileTree}

theorem WellFormed.names_increase (h : (dir entries).WellFormed) :
    (entries.map Prod.fst).Pairwise (· < ·) :=
  (wellFormed_dir_iff.1 h).1

theorem WellFormed.names_nodup (h : (dir entries).WellFormed) :
    (entries.map Prod.fst).Nodup := by
  refine h.names_increase.imp ?_
  intro a b hLt hEq
  exact String.lt_irrefl b (hEq ▸ hLt)

theorem WellFormed.isEntryName (h : (dir entries).WellFormed) (he : e ∈ entries) :
    IsEntryName e.1 :=
  ((wellFormed_dir_iff.1 h).2 e he).1

theorem WellFormed.entry (h : (dir entries).WellFormed) (he : e ∈ entries) : e.2.WellFormed :=
  ((wellFormed_dir_iff.1 h).2 e he).2

/-- A name is looked up to its only entry. -/
theorem lookup_eq_some_iff (hNames : (entries.map Prod.fst).Nodup) :
    entries.lookup name = some child ↔ (name, child) ∈ entries := by
  induction entries with
  | nil => simp
  | cons e entries ih =>
    obtain ⟨n, t⟩ := e
    rw [List.map_cons, List.nodup_cons] at hNames
    rw [List.lookup_cons, List.mem_cons, Prod.mk.injEq]
    by_cases h : name = n
    · subst h
      have hNot : (name, child) ∉ entries := fun hMem =>
        hNames.1 (List.mem_map.2 ⟨_, hMem, rfl⟩)
      simp [hNot, eq_comm]
    · have hBeq : (name == n) = false := beq_eq_false_iff_ne.2 h
      rw [hBeq, ih hNames.2]
      simp [h]

end Entries

-- ---------------------------------------------------------------------------
-- What names lead to
-- ---------------------------------------------------------------------------

/-- What the names lead to, one directory after the other. -/
def at? : List String → FileTree → Option FileTree
  | [], t => some t
  | name :: names, t => (t.entries.lookup name).bind (at? names)

theorem at?_append (names more : List String) (t : FileTree) :
    at? (names ++ more) t = (at? names t).bind (at? more) := by
  induction names generalizing t with
  | nil => rfl
  | cons name names ih =>
    rw [List.cons_append, at?, at?, Option.bind_assoc]
    congr 1
    funext child
    exact ih child

variable {t u : FileTree} {names : List String}

/-- The tree at some names of a well-formed tree is well-formed, and the names
can stand in a directory. -/
theorem WellFormed.at? (h : t.WellFormed) (hAt : at? names t = some u) :
    u.WellFormed ∧ ∀ n ∈ names, IsEntryName n := by
  induction names generalizing t with
  | nil =>
    rw [FileTree.at?, Option.some.injEq] at hAt
    exact ⟨hAt ▸ h, fun _ hn => absurd hn List.not_mem_nil⟩
  | cons name names ih =>
    obtain ⟨child, hLookup, hRest⟩ := Option.bind_eq_some_iff.1 hAt
    cases t with
    | file content => simp [entries] at hLookup
    | dir entries =>
      have hMem := (lookup_eq_some_iff h.names_nodup).1 hLookup
      obtain ⟨hWell, hNames⟩ := ih (h.entry hMem) hRest
      exact ⟨hWell, List.forall_mem_cons.2 ⟨h.isEntryName hMem, hNames⟩⟩

-- ---------------------------------------------------------------------------
-- Listing
-- ---------------------------------------------------------------------------

mutual

/-- All that lies below the tree, with the names that lead to it. -/
def listing : FileTree → List (List String × FileTree)
  | .file _ => []
  | .dir entries => listingOfEntries entries

/-- The entries and all that lies below them. -/
def listingOfEntries : List (String × FileTree) → List (List String × FileTree)
  | [] => []
  | (name, t) :: rest =>
    ([name], t) :: (listing t).map (fun (names, u) => (name :: names, u)) ++ listingOfEntries rest

end

theorem listing_dir (entries : List (String × FileTree)) :
    (dir entries).listing = entries.flatMap fun e =>
      ([e.1], e.2) :: e.2.listing.map fun (names, u) => (e.1 :: names, u) := by
  rw [listing]
  induction entries with
  | nil => rfl
  | cons e entries ih =>
    obtain ⟨name, t⟩ := e
    rw [listingOfEntries, ih, List.flatMap_cons]

theorem ne_nil_of_mem_listing (h : (names, u) ∈ t.listing) : names ≠ [] := by
  cases t with
  | file content => exact absurd h List.not_mem_nil
  | dir entries =>
    rw [listing_dir, List.mem_flatMap] at h
    obtain ⟨e, -, hFound⟩ := h
    rw [List.mem_cons, List.mem_map] at hFound
    rcases hFound with hHere | ⟨⟨below, v⟩, -, hEq⟩
    · rw [(Prod.mk.inj hHere).1]
      exact List.cons_ne_nil _ _
    · rw [← (Prod.mk.inj hEq).1]
      exact List.cons_ne_nil _ _

/-- The listing has exactly what names lead to. -/
theorem mem_listing (h : t.WellFormed) :
    (names, u) ∈ t.listing ↔ names ≠ [] ∧ at? names t = some u := by
  induction t using induction generalizing names with
  | file content =>
    cases names with
    | nil => simp [listing]
    | cons name names => simp [listing, at?, entries]
  | dir entries ih =>
    rw [listing_dir, List.mem_flatMap]
    cases names with
    | nil => simp
    | cons name names =>
      have hEntry : ∀ child, (dir entries).entries.lookup name = some child ↔
          (name, child) ∈ entries := fun child => lookup_eq_some_iff h.names_nodup
      rw [at?, Option.bind_eq_some_iff]
      constructor
      · rintro ⟨⟨n, child⟩, hMem, hFound⟩
        rw [List.mem_cons, List.mem_map] at hFound
        refine ⟨List.cons_ne_nil _ _, child, ?_⟩
        rcases hFound with hHere | ⟨⟨below, v⟩, hBelow, hEq⟩
        · simp only [Prod.mk.injEq, List.cons.injEq] at hHere
          obtain ⟨⟨rfl, rfl⟩, rfl⟩ := hHere
          exact ⟨(hEntry u).2 hMem, rfl⟩
        · simp only [Prod.mk.injEq, List.cons.injEq] at hEq
          obtain ⟨⟨rfl, rfl⟩, rfl⟩ := hEq
          exact ⟨(hEntry child).2 hMem, ((ih _ hMem (h.entry hMem)).1 hBelow).2⟩
      · rintro ⟨-, child, hLookup, hAt⟩
        have hMem := (hEntry child).1 hLookup
        refine ⟨(name, child), hMem, ?_⟩
        rw [List.mem_cons, List.mem_map]
        cases names with
        | nil =>
          rw [at?, Option.some.injEq] at hAt
          exact Or.inl (by rw [hAt])
        | cons n ns =>
          exact Or.inr ⟨(n :: ns, u), (ih _ hMem (h.entry hMem)).2 ⟨List.cons_ne_nil _ _, hAt⟩, rfl⟩

theorem contents_dir (p : Path) (entries : List (String × FileTree)) :
    (dir entries).contents p = entries.flatMap fun e =>
      ⟨p.child e.1, e.1, e.2⟩ :: e.2.contents (p.child e.1) := by
  rw [contents]
  induction entries with
  | nil => rfl
  | cons e entries ih =>
    obtain ⟨name, t⟩ := e
    rw [contentsOfEntries, ih, List.flatMap_cons]

/-- The contents of a path are the listing of the tree there. -/
theorem contents_eq (p : Path) (t : FileTree) :
    t.contents p = t.listing.map fun (names, u) =>
      ⟨p.descend names, names.getLast?.getD "", u⟩ := by
  induction t using induction generalizing p with
  | file content => rfl
  | dir entries ih =>
    rw [contents_dir, listing_dir, List.map_flatMap]
    apply List.flatMap_congr
    intro e he
    rw [ih e he, List.map_cons, List.map_map]
    congr 1
    apply List.map_congr_left
    rintro ⟨names, u⟩ hMem
    obtain ⟨n, ns, rfl⟩ := List.exists_cons_of_ne_nil (ne_nil_of_mem_listing hMem)
    simp

end SourceLint.FileTree
