import SourceLint.Proofs.Rule.GuardSpelling

/-!
# Guard names — plainly named headers have guards of their own

A guard writes `_` for the slashes of a path, for the dot of the file name and
for every character that is no letter or digit, so in general paths share their
guards. Where the names have small letters and digits only, every underscore of
the guard is a seam between two of them. Then the guard can be taken apart
again, and it shows the directories, the stem and the extension it was made of.

* `guardParts_expectedGuard`     — a guard that is taken apart.
* `guard_eq_of_hasGuard`         — a text has one guard.
* `components_eq_of_sharedGuard` — headers that share a guard are the same.
-/

namespace SourceLint

/-- A name of small ASCII letters and digits, at least one. -/
def IsPlainName (s : String) : Prop :=
  s ≠ "" ∧ ∀ c ∈ s.toList, (c.isLower || c.isDigit) = true

instance (s : String) : Decidable (IsPlainName s) :=
  have : Decidable (∀ c ∈ s.toList, (c.isLower || c.isDigit) = true) := List.decidableBAll _ _
  inferInstanceAs (Decidable (_ ∧ _))

/-- The path leads through plainly named directories to a file whose name is a
stem, a dot and an extension, all of them plain names. -/
def IsPlainHeader (p : Path) : Prop :=
  ∃ (directories : List String) (stem extension : String),
    (∀ d ∈ directories, IsPlainName d) ∧ IsPlainName stem ∧ IsPlainName extension ∧
    p.components = (directories ++ [stem ++ "." ++ extension]).map Path.Component.name

/-- What stands between the underscores of a guard, in small letters. -/
def guardParts (guard : String) : List String :=
  (guard.toList.splitOn '_').map fun part => String.ofList (part.map Char.toLower)

-- ---------------------------------------------------------------------------
-- Names in capital letters
-- ---------------------------------------------------------------------------

/-- A plain character is written as one capital letter or digit, and can be
read back. -/
theorem spelling_of_plainChar {c : Char} (hc : (c.isLower || c.isDigit) = true) :
    Text.uppercase c = [c.toUpper] ∧ guardChar c.toUpper = c.toUpper ∧
      c.toUpper ≠ '_' ∧ c.toUpper.toLower = c := by
  have hAscii : ∀ c ∈ Text.asciiChars, (c.isLower || c.isDigit) = true →
      Text.uppercase c = [c.toUpper] ∧ guardChar c.toUpper = c.toUpper ∧
        c.toUpper ≠ '_' ∧ c.toUpper.toLower = c := by
    decide +kernel
  have hKinds : c.isAlphanum = (c.isUpper || c.isLower || c.isDigit) := rfl
  have hLess : c.toNat < 128 := by
    apply toNat_lt_of_isAlphanum
    rw [hKinds, Bool.or_assoc, hc, Bool.or_true]
  exact hAscii c (Text.mem_asciiChars hLess) hc

theorem guardSpelling_plain {s : String} (hs : IsPlainName s) :
    guardSpelling s = s.toList.map Char.toUpper := by
  apply guardSpelling_eq_map
  intro c hc
  obtain ⟨hUpper, hGuard, -, -⟩ := spelling_of_plainChar (hs.2 c hc)
  rw [hUpper, List.map_singleton, hGuard]

theorem underscore_not_mem_guardSpelling {s : String} (hs : IsPlainName s) :
    '_' ∉ guardSpelling s := by
  rw [guardSpelling_plain hs, List.mem_map]
  rintro ⟨c, hc, hUnderscore⟩
  exact (spelling_of_plainChar (hs.2 c hc)).2.2.1 hUnderscore

/-- A plain name can be read back from its spelling in a guard. -/
theorem ofList_toLower_guardSpelling {s : String} (hs : IsPlainName s) :
    String.ofList ((guardSpelling s).map Char.toLower) = s := by
  have hSame : (s.toList.map Char.toUpper).map Char.toLower = s.toList := by
    rw [List.map_map]
    exact (List.map_congr_left fun c hc => (spelling_of_plainChar (hs.2 c hc)).2.2.2).trans
      (List.map_id _)
  rw [guardSpelling_plain hs, hSame, String.ofList_toList]

-- ---------------------------------------------------------------------------
-- Taking a guard apart
-- ---------------------------------------------------------------------------

/-- A part with a seam in it is two parts. -/
theorem intercalate_append_seam (sep : Char) (parts : List (List Char)) (as bs : List Char) :
    [sep].intercalate (parts ++ [as ++ sep :: bs]) = [sep].intercalate (parts ++ [as, bs]) := by
  induction parts with
  | nil => simp
  | cons part parts ih =>
    have hStep : ∀ last : List (List Char), last ≠ [] →
        [sep].intercalate (part :: parts ++ last) =
          part ++ [sep] ++ [sep].intercalate (parts ++ last) := by
      intro last hLast
      obtain ⟨next, more, hNext⟩ :=
        List.exists_cons_of_ne_nil (List.append_ne_nil_of_right_ne_nil parts hLast)
      rw [List.cons_append, hNext, List.intercalate_cons_cons]
    rw [hStep _ (List.cons_ne_nil _ _), hStep _ (List.cons_ne_nil _ _), ih]

/-- **The guard of a plainly named header shows what it was made of.** -/
theorem guardParts_expectedGuard {directories : List String} {stem extension : String}
    (hDirectories : ∀ d ∈ directories, IsPlainName d) (hStem : IsPlainName stem)
    (hExtension : IsPlainName extension) :
    guardParts (expectedGuard (directories ++ [stem ++ "." ++ extension])) =
      directories ++ [stem, extension] := by
  have hPlain : ∀ s ∈ directories ++ [stem, extension], IsPlainName s := by
    intro s hs
    rcases List.mem_append.1 hs with hs | hs
    · exact hDirectories s hs
    · rcases List.mem_pair.1 hs with rfl | rfl
      · exact hStem
      · exact hExtension
  have hGuard : (expectedGuard (directories ++ [stem ++ "." ++ extension])).toList =
      ['_'].intercalate ((directories ++ [stem, extension]).map guardSpelling) := by
    rw [expectedGuard, String.toList_ofList, List.map_append, List.map_singleton,
      guardSpelling_seam (by decide), intercalate_append_seam, List.map_append]
    rfl
  have hSeams : ∀ part ∈ (directories ++ [stem, extension]).map guardSpelling, '_' ∉ part := by
    intro part hPart
    obtain ⟨s, hs, rfl⟩ := List.mem_map.1 hPart
    exact underscore_not_mem_guardSpelling (hPlain s hs)
  have hSome : (directories ++ [stem, extension]).map guardSpelling ≠ [] := by simp
  rw [guardParts, hGuard, List.splitOn_intercalate '_' hSeams hSome, List.map_map]
  exact (List.map_congr_left fun s hs => ofList_toLower_guardSpelling (hPlain s hs)).trans
    (List.map_id _)

/-- Plainly named headers that share a guard have the same components. -/
theorem components_eq_of_guard {p q : Path} (hp : IsPlainHeader p) (hq : IsPlainHeader q)
    (hGuard : expectedGuard p.names = expectedGuard q.names) : p.components = q.components := by
  obtain ⟨directories, stem, extension, hDirectories, hStem, hExtension, hNames⟩ := hp
  obtain ⟨directories', stem', extension', hDirectories', hStem', hExtension', hNames'⟩ := hq
  have hParts := congrArg guardParts hGuard
  rw [Path.names_of_components hNames, Path.names_of_components hNames',
    guardParts_expectedGuard hDirectories hStem hExtension,
    guardParts_expectedGuard hDirectories' hStem' hExtension'] at hParts
  obtain ⟨rfl, hFile⟩ := List.append_inj' hParts rfl
  obtain ⟨rfl, rfl⟩ : stem = stem' ∧ extension = extension' := by simpa using hFile
  rw [hNames, hNames']

-- ---------------------------------------------------------------------------
-- Texts
-- ---------------------------------------------------------------------------

/-- **A text has one guard**: its first line names it. -/
theorem guard_eq_of_hasGuard {text guard guard' : String} (h : hasGuard text guard = true)
    (h' : hasGuard text guard' = true) : guard = guard' := by
  obtain ⟨more, hLines, -⟩ := hasGuard_iff_filledLines.1 h
  obtain ⟨more', hLines', -⟩ := hasGuard_iff_filledLines.1 h'
  have hFirst := (List.cons.inj (hLines.symm.trans hLines')).1
  rw [String.toList_append, String.toList_append] at hFirst
  exact String.toList_inj.1 (List.append_cancel_left hFirst)

/-- A header passes exactly with its guard. -/
theorem checkHeaderGuard_eq_nil_iff {severity : Severity} {file : SourceFile}
    (hHeader : file.kind = .header) :
    Rule.checkHeaderGuard severity file = [] ↔
      hasGuard file.text (expectedGuard file.path.names) = true := by
  rw [checkHeaderGuard_of_header hHeader]
  split
  · next hHas => simp [hHas]
  · next hNot => simp [hNot]

/--
**Plainly named headers have guards of their own.** Two of them that share a
guard have the same components, so they are one path. Hence no text that passes
at one path passes at another.
-/
theorem components_eq_of_sharedGuard {p q : Path} (hp : IsPlainHeader p) (hq : IsPlainHeader q) :
    (expectedGuard p.names = expectedGuard q.names → p.components = q.components) ∧
    ∀ (severity severity' : Severity) (file file' : SourceFile),
      file.path = p → file'.path = q → file.kind = .header → file'.kind = .header →
      file.text = file'.text → p.components ≠ q.components →
      Rule.checkHeaderGuard severity file = [] → Rule.checkHeaderGuard severity' file' ≠ [] := by
  refine ⟨components_eq_of_guard hp hq, ?_⟩
  rintro severity severity' file file' rfl rfl hHeader hHeader' hText hOther hPass hPass'
  rw [checkHeaderGuard_eq_nil_iff hHeader] at hPass
  rw [checkHeaderGuard_eq_nil_iff hHeader', ← hText] at hPass'
  exact hOther (components_eq_of_guard hp hq (guard_eq_of_hasGuard hPass hPass'))

/-- A header with the guard of its path. -/
def listHeader : SourceFile where
  path := ⟨"graph/node2/list.h"⟩
  kind := .header
  isTest := false
  text := "#ifndef GRAPH_NODE2_LIST_H\n#define GRAPH_NODE2_LIST_H\n#endif //GRAPH_NODE2_LIST_H\n"

/-- The same path written in another way, and the same text at another path
whose letters and digits are the same. -/
theorem components_eq_of_sharedGuard_listHeader :
    (⟨"graph//node2/./list.h"⟩ : Path).components = listHeader.path.components ∧
    Rule.checkHeaderGuard .error listHeader = [] ∧
    Rule.checkHeaderGuard .error { listHeader with path := ⟨"graph/node/2list.h"⟩ } ≠ [] := by
  have hList : IsPlainHeader listHeader.path :=
    ⟨["graph", "node2"], "list", "h", by decide, by decide, by decide, by decide +kernel⟩
  have hSpelled : IsPlainHeader ⟨"graph//node2/./list.h"⟩ :=
    ⟨["graph", "node2"], "list", "h", by decide, by decide, by decide, by decide +kernel⟩
  have hOther : IsPlainHeader ⟨"graph/node/2list.h"⟩ :=
    ⟨["graph", "node"], "2list", "h", by decide, by decide, by decide, by decide +kernel⟩
  have hPass : Rule.checkHeaderGuard .error listHeader = [] := by decide +kernel
  exact ⟨(components_eq_of_sharedGuard hSpelled hList).1 (by decide +kernel), hPass,
    (components_eq_of_sharedGuard hList hOther).2 .error .error listHeader _ rfl rfl rfl rfl rfl
      (by decide +kernel) hPass⟩

end SourceLint
