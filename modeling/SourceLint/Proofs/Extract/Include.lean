import SourceLint.Extract.Include
import SourceLint.Proofs.Extract.Piece

/-!
# Included headers — every include of a text is listed

`includes` scans each line for `#include <header>` and jumps over what it has
read. No include begins inside another one, since `#` stands only at its
beginning. So the scan loses none, and the list can be told by substrings:

* `systemInclude_eq_some_iff`  — what the recogniser accepts.
* `systemInclude_findsApart`   — includes do not overlap.
* `mem_findAll_systemInclude`  — the headers of a line.
* `includes_exact`             — the headers of a text, with lines and order.
-/

namespace SourceLint

/-- A header's name: at least one character, and all of them word characters,
slashes or dots. -/
def IsHeaderName (h : String) : Prop :=
  h ≠ "" ∧ ∀ c ∈ h.toList, Text.isWord c = true ∨ c = '/' ∨ c = '.'

instance (h : String) : Decidable (IsHeaderName h) :=
  -- by the characters of the name, not by all characters there are
  have : Decidable (∀ c ∈ h.toList, Text.isWord c = true ∨ c = '/' ∨ c = '.') :=
    List.decidableBAll _ _
  inferInstanceAs (Decidable (_ ∧ _))

/-- The directive that includes a header. -/
def includeDirective (h : String) : List Char :=
  ("#include <" ++ h ++ ">").toList

theorem includeDirective_eq (h : String) :
    includeDirective h = "#include <".toList ++ (h.toList ++ ['>']) := by
  rw [includeDirective, String.toList_append, String.toList_append, List.append_assoc]
  rfl

theorem length_includeDirective (h : String) :
    (includeDirective h).length = "#include <>".length + h.toList.length := by
  have hLead : "#include <".toList.length = 10 := by rfl
  have hBoth : "#include <>".length = 11 := by rfl
  rw [includeDirective_eq, List.length_append, List.length_append, List.length_singleton]
  omega

theorem isHeaderChar_iff {c : Char} :
    isHeaderChar c = true ↔ Text.isWord c = true ∨ c = '/' ∨ c = '.' := by
  simp [isHeaderChar, or_assoc]

-- ---------------------------------------------------------------------------
-- The recogniser
-- ---------------------------------------------------------------------------

/-- **What the recogniser accepts**: a text that begins with the directive of
a header's name, and nothing else. -/
theorem systemInclude_eq_some_iff {cs : List Char} {h : String} {size : Nat} :
    systemInclude cs = some (h, size) ↔
      IsHeaderName h ∧ includeDirective h <+: cs ∧ size = (includeDirective h).length := by
  constructor
  · intro hFind
    unfold systemInclude at hFind
    split at hFind
    · simp at hFind
    · next rest hLead =>
      rw [Text.dropStart?_eq_some_iff] at hLead
      split at hFind
      · next c name tail hName hTail =>
        rw [Option.some.injEq, Prod.mk.injEq] at hFind
        obtain ⟨rfl, rfl⟩ := hFind
        have hRest : rest = (c :: name) ++ '>' :: tail := by
          rw [← hName, ← hTail, List.takeWhile_append_dropWhile]
        have hBack : (String.ofList (c :: name)).toList = c :: name := String.toList_ofList
        refine ⟨⟨by simp, ?_⟩, ⟨tail, ?_⟩, ?_⟩
        · intro d hd
          rw [hBack, ← hName] at hd
          exact isHeaderChar_iff.1 (List.all_eq_true.1 List.all_takeWhile d hd)
        · rw [hLead, hRest, includeDirective_eq, hBack, List.append_assoc,
            List.append_assoc, List.singleton_append]
        · rw [length_includeDirective, hBack]
      · simp at hFind
  · intro hDirective
    obtain ⟨⟨hNonempty, hChars⟩, ⟨tail, rfl⟩, rfl⟩ := hDirective
    obtain ⟨c, name, hName⟩ : ∃ c name, h.toList = c :: name := by
      apply List.exists_cons_of_ne_nil
      simpa using hNonempty
    have hAll : ∀ d ∈ h.toList, isHeaderChar d = true := fun d hd =>
      isHeaderChar_iff.2 (hChars d hd)
    have hLead : Text.dropStart? "#include <".toList (includeDirective h ++ tail) =
        some (h.toList ++ '>' :: tail) := by
      rw [Text.dropStart?_eq_some_iff, includeDirective_eq, List.append_assoc,
        List.append_assoc, List.singleton_append]
    have hStop : isHeaderChar '>' = false := by decide
    obtain ⟨hTake, hDrop⟩ := takeWhile_append_stop hAll hStop tail
    have hBack : String.ofList (c :: name) = h := by rw [← hName, String.ofList_toList]
    rw [length_includeDirective, hName]
    rw [hName] at hLead hTake hDrop
    unfold systemInclude
    simp only [hLead, hTake, hDrop, hBack]

/-- The characters of a directive are those of its fixed parts and of the name. -/
theorem not_mem_includeDirective {x : Char} {h : String} (hHeader : IsHeaderName h)
    (hFixed : x ∉ "#include <>".toList) (hName : isHeaderChar x = false) :
    x ∉ includeDirective h := by
  intro hMem
  rw [includeDirective_eq] at hMem
  have hParts : "#include <>".toList = "#include <".toList ++ ['>'] := by decide
  rw [hParts, List.mem_append, not_or] at hFixed
  rcases List.mem_append.1 hMem with hLead | hMem
  · exact hFixed.1 hLead
  · rcases List.mem_append.1 hMem with hChar | hEnd
    · rw [isHeaderChar_iff.2 (hHeader.2 x hChar)] at hName
      exact absurd hName (by decide)
    · exact hFixed.2 hEnd

/-- A directive begins with a `#`. -/
theorem includeDirective_eq_cons (h : String) : ∃ rest, includeDirective h = '#' :: rest :=
  ⟨_, includeDirective_eq h⟩

/-- The directive of a header, as a piece that names it. -/
def IsInclude (h : String) (piece : List Char) : Prop :=
  IsHeaderName h ∧ piece = includeDirective h

theorem systemInclude_reads : Reads systemInclude IsInclude where
  find_iff := by
    intro cs h size
    rw [systemInclude_eq_some_iff]
    constructor
    · intro hBegins
      obtain ⟨hHeader, hPrefix, hSize⟩ := hBegins
      exact ⟨_, ⟨hHeader, rfl⟩, hPrefix, hSize⟩
    · rintro ⟨piece, ⟨hHeader, rfl⟩, hPrefix, hSize⟩
      exact ⟨hHeader, hPrefix, hSize⟩
  ne_nil := by
    rintro h piece ⟨-, rfl⟩
    obtain ⟨rest, hDirective⟩ := includeDirective_eq_cons h
    rw [hDirective]
    exact List.cons_ne_nil _ _

/-- A directive has its only `#` at its beginning. -/
theorem marked_of_isInclude {h : String} {piece : List Char} (hPiece : IsInclude h piece) :
    Marked [] '#' '>' piece := by
  obtain ⟨⟨-, hChars⟩, rfl⟩ := hPiece
  refine ⟨"include <".toList ++ h.toList, ?_, ?_⟩
  · rw [includeDirective_eq, List.append_assoc]
    rfl
  · intro hMem
    rcases List.mem_append.1 hMem with hLead | hName
    · exact absurd hLead (by decide)
    · exact absurd (hChars '#' hName) (by decide)

/-- **Includes do not overlap.** -/
theorem systemInclude_findsApart : Text.FindsApart systemInclude :=
  systemInclude_reads.findsApart (by decide) List.not_mem_nil marked_of_isInclude

/-- A character that stands in no directive ends none. -/
theorem systemInclude_ignores {x : Char} (hFixed : x ∉ "#include <>".toList)
    (hName : isHeaderChar x = false) : Text.Ignores systemInclude x := by
  intro cs
  ext ⟨h, size⟩
  rw [systemInclude_eq_some_iff, systemInclude_eq_some_iff,
    List.prefix_concat_iff]
  constructor
  · rintro ⟨hHeader, hEnd | hPrefix, hSize⟩
    · have hMem : x ∈ includeDirective h := by
        rw [hEnd]
        exact List.mem_append_right _ (List.mem_singleton_self x)
      exact absurd hMem (not_mem_includeDirective hHeader hFixed hName)
    · exact ⟨hHeader, hPrefix, hSize⟩
  · intro hBegins
    obtain ⟨hHeader, hPrefix, hSize⟩ := hBegins
    exact ⟨hHeader, Or.inr hPrefix, hSize⟩

-- ---------------------------------------------------------------------------
-- The headers of a line
-- ---------------------------------------------------------------------------

theorem hasPiece_isInclude {l : List Char} {h : String} :
    HasPiece IsInclude h l ↔ IsHeaderName h ∧ includeDirective h <:+: l := by
  constructor
  · rintro ⟨piece, ⟨hHeader, rfl⟩, hInfix⟩
    exact ⟨hHeader, hInfix⟩
  · intro hStands
    obtain ⟨hHeader, hInfix⟩ := hStands
    exact ⟨_, ⟨hHeader, rfl⟩, hInfix⟩

/-- The headers that are found in a line are those whose directive it
contains. -/
theorem mem_findAll_systemInclude {l : List Char} {h : String} :
    h ∈ Text.findAll systemInclude l ↔ IsHeaderName h ∧ includeDirective h <:+: l := by
  rw [systemInclude_reads.mem_findAll systemInclude_findsApart, hasPiece_isInclude]

/-- The headers that a text includes are those whose directive stands in some
line. -/
theorem mem_map_name_includes {text h : String} :
    h ∈ (includes text).map (·.name) ↔
      IsHeaderName h ∧ ∃ l ∈ Text.lines text.toList, includeDirective h <:+: l := by
  rw [includes, mem_map_name_mentions]
  constructor
  · intro hFoundIn
    obtain ⟨l, hl, hFound⟩ := hFoundIn
    obtain ⟨hHeader, hInfix⟩ := mem_findAll_systemInclude.1 hFound
    exact ⟨hHeader, l, hl, hInfix⟩
  · intro hStands
    obtain ⟨hHeader, l, hl, hInfix⟩ := hStands
    exact ⟨l, hl, mem_findAll_systemInclude.2 ⟨hHeader, hInfix⟩⟩

-- ---------------------------------------------------------------------------
-- The headers of a text
-- ---------------------------------------------------------------------------

theorem foundAt_systemInclude_iff {text h : String} {line column : Nat} :
    FoundAt systemInclude text h line column ↔
      IsHeaderName h ∧ StandsAt (includeDirective h) text line column := by
  rw [systemInclude_reads.foundAt_iff]
  constructor
  · rintro ⟨piece, ⟨hHeader, rfl⟩, hStands⟩
    exact ⟨hHeader, hStands⟩
  · intro hStands
    obtain ⟨hHeader, hStands⟩ := hStands
    exact ⟨_, ⟨hHeader, rfl⟩, hStands⟩

theorem firstStandsAt_of_firstFoundAt {text h : String} {line column : Nat}
    (hFirst : FirstFoundAt systemInclude text h line column) :
    FirstStandsAt (includeDirective h) text line column := by
  obtain ⟨hFound, hLeast⟩ := hFirst
  obtain ⟨hHeader, hStands⟩ := foundAt_systemInclude_iff.1 hFound
  exact ⟨hStands, fun line' column' hStands' =>
    hLeast line' column' (foundAt_systemInclude_iff.2 ⟨hHeader, hStands'⟩)⟩

/--
**The included headers, exactly.** A header is listed with a line if and only
if the line contains its directive, at any column, and no earlier line does.
No header is listed twice, and the headers come in the order of the places
where their directives stand first.
-/
theorem includes_exact (text : String) :
    (∀ h n, (⟨h, n⟩ : Mention) ∈ includes text ↔
      IsHeaderName h ∧ (∃ l, Text.IsLine text n l ∧ includeDirective h <:+: l) ∧
        ∀ m < n, ∀ l, Text.IsLine text m l → ¬ includeDirective h <:+: l) ∧
    ((includes text).map (·.name)).Nodup ∧
    ∃ column : Mention → Nat,
      (∀ m ∈ includes text,
        FirstStandsAt (includeDirective m.name) text m.line (column m)) ∧
      (includes text).Pairwise fun m m' => Before m.line (column m) m'.line (column m') := by
  refine ⟨?_, nodup_map_name_mentions, ?_⟩
  · intro h n
    rw [includes, mem_mentions_iff systemInclude_findsApart, exists_firstFoundAt_iff]
    simp only [foundAt_systemInclude_iff, infix_iff_exists_column]
    constructor
    · intro hFirst
      obtain ⟨⟨column, hHeader, l, hLine, hPrefix⟩, hEarlier⟩ := hFirst
      refine ⟨hHeader, ⟨l, hLine, column, hPrefix⟩, ?_⟩
      rintro m hLess l' hLine' ⟨column', hPrefix'⟩
      exact hEarlier m hLess column' ⟨hHeader, l', hLine', hPrefix'⟩
    · intro hFirst
      obtain ⟨hHeader, ⟨l, hLine, column, hPrefix⟩, hEarlier⟩ := hFirst
      refine ⟨⟨column, hHeader, l, hLine, hPrefix⟩, ?_⟩
      rintro m hLess column' ⟨-, l', hLine', hPrefix'⟩
      exact hEarlier m hLess l' hLine' ⟨column', hPrefix'⟩
  · obtain ⟨column, hFirst, hOrder⟩ := mentions_in_order systemInclude_findsApart text
    exact ⟨column, fun m hm => firstStandsAt_of_firstFoundAt (hFirst m hm), hOrder⟩

end SourceLint
