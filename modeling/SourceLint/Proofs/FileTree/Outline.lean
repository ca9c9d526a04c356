import SourceLint.Proofs.FileTree.Image

/-!
# File trees — their outline, and what a file holds

The outline of a tree is the tree with all its files emptied. Whatever is done
with a tree that does not read a file can be done with its outline, step by
step in the same way: resolving paths, and listing.

Writing a file that is there keeps the outline and every other file
(`outline_write`, `at?_write`). So a path reads what was written if it leads to
that place, and otherwise what it read before (`bytes?_write`).

* `follow?_outline`  — paths lead to the same places.
* `outline_write`    — writing a file keeps the outline.
* `bytes?_write`     — what is read after a file was written.
-/

namespace SourceLint.FileTree

-- ---------------------------------------------------------------------------
-- The outline
-- ---------------------------------------------------------------------------

mutual

/-- The tree with all its files emptied. -/
def outline : FileTree → FileTree
  | .file _ => .file .empty
  | .dir entries => .dir (outlineEntries entries)

/-- The entries with all files emptied. -/
def outlineEntries : List (String × FileTree) → List (String × FileTree)
  | [] => []
  | (name, t) :: rest => (name, outline t) :: outlineEntries rest

end

variable {t u : FileTree} {p : Path} {names : List String}

theorem outlineEntries_eq_map (entries : List (String × FileTree)) :
    outlineEntries entries = entries.map fun e => (e.1, e.2.outline) := by
  induction entries with
  | nil => rfl
  | cons e entries ih =>
    obtain ⟨name, t⟩ := e
    rw [outlineEntries, ih, List.map_cons]

/-- The outline keeps all names. -/
theorem renames_outline : Renames outline id id where
  file _ := rfl
  dir entries := congrArg dir (outlineEntries_eq_map entries)
  injective := Function.injective_id
  ofList _ := rfl
  silent _ := Iff.rfl
  up _ := Iff.rfl

theorem isDirectory_outline (t : FileTree) : t.outline.isDirectory = t.isDirectory :=
  renames_outline.isDirectory t

-- ---------------------------------------------------------------------------
-- Resolving and listing in the outline
-- ---------------------------------------------------------------------------

/-- The place in the outline. -/
def Place.outline (place : Place) : Place :=
  ⟨place.here.outline, place.above.map fun e => (e.1, e.2.outline)⟩

theorem Place.names_outline (place : Place) : place.outline.names = place.names := by
  rw [Place.names, Place.names, Place.outline, List.map_map]
  rfl

/-- A path leads to the same place in the outline. -/
theorem follow?_outline (t : FileTree) (p : Path) :
    t.outline.follow? p = (t.follow? p).map Place.outline :=
  renames_outline.follow? t (List.map_id _).symm

theorem find?_outline (t : FileTree) (p : Path) :
    t.outline.find? p = (t.find? p).map outline := by
  rw [find?_eq, find?_eq, follow?_outline]
  split
  · rw [Option.map_map, Option.map_map]
    rfl
  · rfl

theorem hasDir_outline (t : FileTree) (p : Path) : t.outline.hasDir p = t.hasDir p := by
  rw [hasDir, hasDir, find?_outline, Option.any_map]
  congr 1
  exact funext isDirectory_outline

theorem hasFile_outline (t : FileTree) (p : Path) : t.outline.hasFile p = t.hasFile p := by
  rw [hasFile, hasFile, find?_outline, Option.any_map]
  congr 1
  exact funext fun u => congrArg not (isDirectory_outline u)

/-- The listing of the outline has the outlines. -/
theorem contents_outline (t : FileTree) (p : Path) :
    t.outline.contents p = (t.contents p).map fun f => ⟨f.path, f.name, f.tree.outline⟩ :=
  renames_outline.contents (φ := id) (fun _ _ => rfl) t p

-- ---------------------------------------------------------------------------
-- Writing a file that is there
-- ---------------------------------------------------------------------------

variable {name : String} {old : ByteArray}

theorem lookup_setEntry (name other : String) (t : FileTree)
    (entries : List (String × FileTree)) :
    (setEntry name t entries).lookup other =
      if other = name then some t else entries.lookup other := by
  induction entries with
  | nil =>
    rw [setEntry, List.lookup_cons]
    split
    case h_1 h => rw [if_pos (eq_of_beq h)]
    case h_2 h => rw [if_neg (ne_of_beq_false h), List.lookup_nil]
  | cons e entries ih =>
    obtain ⟨n, u⟩ := e
    rw [setEntry]
    split
    case isTrue hLess =>
      have hNe : n ≠ name := fun h => String.lt_irrefl name (h ▸ hLess)
      rw [List.lookup_cons, List.lookup_cons, ih]
      split
      case h_1 h => rw [if_neg (eq_of_beq h ▸ hNe)]
      case h_2 h => rfl
    case isFalse =>
      split
      case isTrue hSame =>
        subst hSame
        rw [List.lookup_cons, List.lookup_cons]
        split
        case h_1 h => rw [if_pos (eq_of_beq h)]
        case h_2 h => rw [if_neg (ne_of_beq_false h)]
      case isFalse =>
        rw [List.lookup_cons]
        split
        case h_1 h => rw [if_pos (eq_of_beq h)]
        case h_2 h => rw [if_neg (ne_of_beq_false h)]

/-- Setting an entry that is there to a tree with the same outline keeps the
outlines of all entries. -/
theorem outlineEntries_setEntry {entries : List (String × FileTree)}
    (hNames : (entries.map Prod.fst).Pairwise (· < ·)) (hLookup : entries.lookup name = some u)
    (hOutline : t.outline = u.outline) :
    outlineEntries (setEntry name t entries) = outlineEntries entries := by
  induction entries with
  | nil => simp at hLookup
  | cons e entries ih =>
    obtain ⟨n, v⟩ := e
    rw [List.map_cons, List.pairwise_cons] at hNames
    rw [List.lookup_cons] at hLookup
    rw [setEntry]
    by_cases hSame : n = name
    · subst hSame
      rw [beq_self_eq_true] at hLookup
      simp only [Option.some.injEq] at hLookup
      rw [if_neg (String.lt_irrefl n), if_pos rfl, outlineEntries, outlineEntries, hOutline,
        hLookup]
    · rw [beq_false_of_ne (Ne.symm hSame)] at hLookup
      -- the entry stands further back, so its name is greater
      have hMem : name ∈ entries.map Prod.fst := by
        obtain ⟨before, behind, rfl, -⟩ := List.lookup_eq_some_iff.1 hLookup
        simp
      rw [if_pos (hNames.1 name hMem), outlineEntries, ih hNames.2 hLookup, outlineEntries]

theorem write_cons (b : ByteArray) (name : String) (names : List String)
    (entries : List (String × FileTree)) :
    (dir entries).write b (name :: names) = .dir (setEntry name
      (((entries.lookup name).getD (.dir [])).write b names) entries) := rfl

/-- Writing a file that is there keeps the outline. -/
theorem outline_write (h : t.WellFormed) (hAt : at? names t = some (.file old)) (b : ByteArray) :
    (t.write b names).outline = t.outline := by
  induction names generalizing t with
  | nil =>
    rw [at?, Option.some.injEq] at hAt
    subst hAt
    rfl
  | cons name names ih =>
    obtain ⟨child, hLookup, hRest⟩ := Option.bind_eq_some_iff.1 hAt
    cases t with
    | file content => simp [entries] at hLookup
    | dir entries =>
      rw [FileTree.entries] at hLookup
      have hMem := (lookup_eq_some_iff h.names_nodup).1 hLookup
      rw [write_cons, hLookup, Option.getD_some, outline, outline,
        outlineEntries_setEntry h.names_increase hLookup (ih (h.entry hMem) hRest)]

/-- What is written is found there, and every other file is what it was. -/
theorem at?_write (hAt : at? names t = some (.file old)) (b : ByteArray) {others : List String}
    (hOther : at? others t = some u) (hFile : u.isDirectory = false) :
    at? others (t.write b names) = some (if others = names then .file b else u) := by
  induction names generalizing t others with
  | nil =>
    rw [at?, Option.some.injEq] at hAt
    subst hAt
    cases others with
    | nil => rfl
    | cons other others => simp [at?, entries] at hOther
  | cons name names ih =>
    obtain ⟨child, hLookup, hRest⟩ := Option.bind_eq_some_iff.1 hAt
    cases t with
    | file content => simp [entries] at hLookup
    | dir entries =>
      rw [FileTree.entries] at hLookup
      cases others with
      | nil =>
        rw [at?, Option.some.injEq] at hOther
        subst hOther
        exact absurd hFile (Bool.noConfusion)
      | cons other others =>
        rw [at?, FileTree.entries] at hOther
        rw [write_cons, hLookup, Option.getD_some, at?, FileTree.entries, lookup_setEntry]
        by_cases hSame : other = name
        · subst hSame
          rw [hLookup, Option.bind_some] at hOther
          rw [if_pos rfl, Option.bind_some, ih hRest hOther]
          simp
        · rw [if_neg hSame, hOther]
          simp [hSame]

-- ---------------------------------------------------------------------------
-- Reading by a path
-- ---------------------------------------------------------------------------

/-- A path that leads to the place reads what was written there, and any other
path what it read before. -/
theorem bytes?_write (h : t.WellFormed) (hAt : at? names t = some (.file old)) (b : ByteArray)
    (p : Path) :
    (t.write b names).bytes? p = (t.bytes? p).map fun content =>
      if (t.follow? p).map Place.names = some names then b else content := by
  have hFollow := congrArg (follow? · p) (outline_write h hAt b)
  simp only [follow?_outline] at hFollow
  rw [bytes?, bytes?, find?_eq, find?_eq]
  split
  case isFalse => rfl
  cases hOld : t.follow? p with
  | none =>
    rw [hOld, Option.map_none, Option.map_eq_none_iff] at hFollow
    rw [hFollow]
    rfl
  | some place =>
    rw [hOld, Option.map_some, Option.map_eq_some_iff] at hFollow
    obtain ⟨place', hNew, hOutline⟩ := hFollow
    have hNames : place'.names = place.names := by
      rw [← Place.names_outline, hOutline, Place.names_outline]
    have hHere : place'.here.isDirectory = place.here.isDirectory := by
      rw [← isDirectory_outline, ← isDirectory_outline place.here]
      exact congrArg (fun q : Place => q.here.isDirectory) hOutline
    rw [hNew]
    simp only [Option.map_some, Option.bind_some, Option.some.injEq]
    cases hContent : place.here with
    | dir entries =>
      rw [hContent] at hHere
      cases hContent' : place'.here with
      | dir entries' => rfl
      | file content => rw [hContent'] at hHere; exact Bool.noConfusion hHere
    | file content =>
      have hThere := at?_write hAt b (at?_of_follow? hOld) (by rw [hContent]; rfl)
      rw [← hNames, at?_of_follow? hNew, hContent, Option.some.injEq] at hThere
      rw [hThere, ← hNames]
      split <;> rfl

theorem text?_write_of_ne (h : t.WellFormed) (hAt : at? names t = some (.file old)) (b : ByteArray)
    (hNe : (t.follow? p).map Place.names ≠ some names) : (t.write b names).text? p = t.text? p := by
  rw [text?, text?, bytes?_write h hAt b p]
  simp only [if_neg hNe, Option.map_id_fun', id_eq]

theorem text?_write_of_eq (h : t.WellFormed) (hAt : at? names t = some (.file old)) (text : String)
    (hFile : t.hasFile p = true) (hEq : (t.follow? p).map Place.names = some names) :
    (t.write text.toUTF8 names).text? p = some text := by
  obtain ⟨content, hContent⟩ := hasFile_iff.1 hFile
  have hBytes : t.bytes? p = some content := by rw [bytes?, hContent]; rfl
  rw [text?, bytes?_write h hAt text.toUTF8 p, hBytes, Option.map_some, if_pos hEq,
    Option.bind_some]
  exact dif_pos text.isValidUTF8

end SourceLint.FileTree
