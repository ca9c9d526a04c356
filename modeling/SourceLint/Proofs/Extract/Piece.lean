import SourceLint.Proofs.Extract.Mention

/-!
# Pieces — what is mentioned, told by substrings

Some recognisers accept pieces of a known form and nothing else: an include, a
test macro. Such a recogniser *reads* the pieces (`Reads`). A scan jumps over
each piece that it has read, and it still sees them all where no piece begins
inside another one. Then a name is mentioned exactly if some line contains a
piece of that name.

* `Reads.findsApart`      — pieces with a mark do not overlap.
* `Reads.mem_findAll`     — the names of a line.
* `Reads.mentions_exact`  — the names of a text, with lines and order.
-/

namespace SourceLint

variable {find : Text.Recogniser String} {IsPiece : String → List Char → Prop}
  {text name : String} {line column : Nat} {l : List Char}

/-- What is read as far as the characters are of a kind ends where the first
other one stands. -/
theorem takeWhile_append_stop {α : Type} {p : α → Bool} {as : List α} {stop : α}
    (hAll : ∀ a ∈ as, p a = true) (hStop : p stop = false) (rest : List α) :
    (as ++ stop :: rest).takeWhile p = as ∧ (as ++ stop :: rest).dropWhile p = stop :: rest := by
  have hNot : ¬ p stop = true := by simp [hStop]
  constructor
  · rw [List.takeWhile_append_of_pos hAll, List.takeWhile_cons_of_neg hNot, List.append_nil]
  · rw [List.dropWhile_append_of_pos hAll, List.dropWhile_cons_of_neg hNot]

/-- A text contains a piece exactly if the piece begins at some column. -/
theorem infix_iff_exists_column {piece l : List Char} :
    piece <:+: l ↔ ∃ column, piece <+: l.drop column := by
  constructor
  · intro hInfix
    obtain ⟨before, after, rfl⟩ := hInfix
    refine ⟨before.length, after, ?_⟩
    rw [List.append_assoc, List.drop_left]
  · intro hBegins
    obtain ⟨column, hPrefix⟩ := hBegins
    exact hPrefix.isInfix.trans (List.drop_suffix _ _).isInfix

/-- The piece stands at this line and column of the text. -/
def StandsAt (piece : List Char) (text : String) (line column : Nat) : Prop :=
  ∃ l, Text.IsLine text line l ∧ piece <+: l.drop column

/-- The piece stands here and nowhere before. -/
def FirstStandsAt (piece : List Char) (text : String) (line column : Nat) : Prop :=
  StandsAt piece text line column ∧
    ∀ line' column', StandsAt piece text line' column' → ¬ Before line' column' line column

-- ---------------------------------------------------------------------------
-- Reading pieces
-- ---------------------------------------------------------------------------

/-- The recogniser finds a name where a piece of that name begins, and takes
the whole piece. -/
structure Reads (find : Text.Recogniser String) (IsPiece : String → List Char → Prop) : Prop where
  find_iff : ∀ {cs name size}, find cs = some (name, size) ↔
    ∃ piece, IsPiece name piece ∧ piece <+: cs ∧ size = piece.length
  ne_nil : ∀ {name piece}, IsPiece name piece → piece ≠ []

/-- The line contains a piece of that name. -/
def HasPiece (IsPiece : String → List Char → Prop) (name : String) (l : List Char) : Prop :=
  ∃ piece, IsPiece name piece ∧ piece <:+: l

/-- A piece of that name stands at this line and column of the text. -/
def PieceAt (IsPiece : String → List Char → Prop) (text name : String) (line column : Nat) :
    Prop :=
  ∃ piece, IsPiece name piece ∧ StandsAt piece text line column

/-- A piece of that name stands here and none before. -/
def FirstPieceAt (IsPiece : String → List Char → Prop) (text name : String) (line column : Nat) :
    Prop :=
  PieceAt IsPiece text name line column ∧
    ∀ line' column', PieceAt IsPiece text name line' column' → ¬ Before line' column' line column

theorem hasPiece_iff_exists_column :
    HasPiece IsPiece name l ↔ ∃ column piece, IsPiece name piece ∧ piece <+: l.drop column := by
  unfold HasPiece
  simp only [infix_iff_exists_column]
  constructor
  · intro hPiece
    obtain ⟨piece, hName, column, hPrefix⟩ := hPiece
    exact ⟨column, piece, hName, hPrefix⟩
  · intro hBegins
    obtain ⟨column, piece, hName, hPrefix⟩ := hBegins
    exact ⟨piece, hName, column, hPrefix⟩

/-- A line contains a piece exactly if a piece stands at some column of it. -/
theorem exists_pieceAt_iff :
    (∃ column, PieceAt IsPiece text name line column) ↔
      ∃ l, Text.IsLine text line l ∧ HasPiece IsPiece name l := by
  constructor
  · intro hAt
    obtain ⟨column, piece, hName, l, hLine, hPrefix⟩ := hAt
    exact ⟨l, hLine, hasPiece_iff_exists_column.2 ⟨column, piece, hName, hPrefix⟩⟩
  · intro hHas
    obtain ⟨l, hLine, hPiece⟩ := hHas
    obtain ⟨column, piece, hName, hPrefix⟩ := hasPiece_iff_exists_column.1 hPiece
    exact ⟨column, piece, hName, l, hLine, hPrefix⟩

/-- The columns at which a name is found are those at which a piece begins. -/
theorem Reads.find_drop_iff (hReads : Reads find IsPiece) :
    (column < l.length ∧ ∃ size, find (l.drop column) = some (name, size)) ↔
      ∃ piece, IsPiece name piece ∧ piece <+: l.drop column := by
  constructor
  · intro hFound
    obtain ⟨-, size, hFind⟩ := hFound
    obtain ⟨piece, hName, hPrefix, -⟩ := hReads.find_iff.1 hFind
    exact ⟨piece, hName, hPrefix⟩
  · intro hBegins
    obtain ⟨piece, hName, hPrefix⟩ := hBegins
    refine ⟨?_, piece.length, hReads.find_iff.2 ⟨piece, hName, hPrefix, rfl⟩⟩
    have hPos := List.length_pos_iff.2 (hReads.ne_nil hName)
    have hLength := hPrefix.length_le
    rw [List.length_drop] at hLength
    omega

theorem Reads.foundAt_iff (hReads : Reads find IsPiece) :
    FoundAt find text name line column ↔ PieceAt IsPiece text name line column := by
  unfold FoundAt PieceAt StandsAt
  simp only [hReads.find_drop_iff]
  constructor
  · intro hFound
    obtain ⟨l, hLine, piece, hName, hPrefix⟩ := hFound
    exact ⟨piece, hName, l, hLine, hPrefix⟩
  · intro hStands
    obtain ⟨piece, hName, l, hLine, hPrefix⟩ := hStands
    exact ⟨l, hLine, piece, hName, hPrefix⟩

theorem Reads.firstFoundAt_iff (hReads : Reads find IsPiece) :
    FirstFoundAt find text name line column ↔ FirstPieceAt IsPiece text name line column := by
  unfold FirstFoundAt FirstPieceAt
  simp only [hReads.foundAt_iff]

-- ---------------------------------------------------------------------------
-- Pieces that cannot overlap
-- ---------------------------------------------------------------------------

/-- The text begins with `lead` and the mark, which stands nowhere else in it,
and ends with another character. -/
def Marked (lead : List Char) (mark last : Char) (t : List Char) : Prop :=
  ∃ inner, t = lead ++ mark :: (inner ++ [last]) ∧ mark ∉ inner

/-- No marked text begins inside another one: either its mark would stand
there, or the end of the outer text would stand in front of the inner mark. -/
theorem not_prefix_drop_of_marked {lead t t' tail : List Char} {mark last : Char} {i : Nat}
    (hMark : mark ≠ last) (hLast : last ∉ lead) (ht : Marked lead mark last t)
    (ht' : Marked lead mark last t') (hPos : 0 < i) (hLess : i < t.length) :
    ¬ t' <+: (t ++ tail).drop i := by
  obtain ⟨inner, rfl, hOnce⟩ := ht
  obtain ⟨inner', rfl, -⟩ := ht'
  intro hPrefix
  obtain ⟨rest, hRest⟩ := hPrefix
  simp only [List.length_append, List.length_cons, List.length_nil] at hLess
  -- both texts, character by character from column `i` on
  have hSame (j : Nat) :
      (lead ++ mark :: (inner' ++ [last]) ++ rest)[j]? =
        (lead ++ mark :: (inner ++ [last]) ++ tail)[i + j]? := by
    rw [hRest, List.getElem?_drop]
  rcases Nat.lt_or_ge i (inner.length + 2) with hInside | hBeyond
  · have hInner : (inner ++ [last])[i - 1]? = some mark := by
      have hMarkAt : (lead ++ mark :: (inner' ++ [last]) ++ rest)[lead.length]? = some mark := by
        simp
      obtain ⟨j, rfl⟩ : ∃ j, i = j + 1 := ⟨i - 1, by omega⟩
      rw [hSame, List.append_assoc, List.getElem?_append_right (by omega), Nat.add_sub_cancel,
        List.cons_append, List.getElem?_cons_succ, List.getElem?_append_left (by simp; omega)]
        at hMarkAt
      exact hMarkAt
    rcases List.mem_append.1 (List.mem_of_getElem? hInner) with hMem | hMem
    · exact hOnce hMem
    · exact hMark (List.mem_singleton.1 hMem)
  · have hEnd : lead[lead.length + inner.length + 1 - i]? = some last := by
      have hLastAt : (lead ++ mark :: (inner ++ [last]) ++ tail)[lead.length +
          (inner.length + 1)]? = some last := by
        simp
      have hIndex : i + (lead.length + inner.length + 1 - i) =
          lead.length + (inner.length + 1) := by omega
      rw [← hIndex, ← hSame, List.append_assoc, List.getElem?_append_left (by omega)] at hLastAt
      exact hLastAt
    exact hLast (List.mem_of_getElem? hEnd)

/-- **Pieces with a mark do not overlap.** -/
theorem Reads.findsApart (hReads : Reads find IsPiece) {lead : List Char} {mark last : Char}
    (hMark : mark ≠ last) (hLast : last ∉ lead)
    (hMarked : ∀ {name piece}, IsPiece name piece → Marked lead mark last piece) :
    Text.FindsApart find := by
  intro cs name size hFind i hPos hLess
  obtain ⟨piece, hName, ⟨tail, rfl⟩, rfl⟩ := hReads.find_iff.1 hFind
  rw [Option.eq_none_iff_forall_ne_some]
  rintro ⟨name', size'⟩ hInner
  obtain ⟨piece', hName', hPrefix, -⟩ := hReads.find_iff.1 hInner
  exact not_prefix_drop_of_marked hMark hLast (hMarked hName) (hMarked hName') hPos hLess hPrefix

-- ---------------------------------------------------------------------------
-- What is mentioned
-- ---------------------------------------------------------------------------

/-- **The names of a line** are those of the pieces that it contains. -/
theorem Reads.mem_findAll (hReads : Reads find IsPiece) (hApart : Text.FindsApart find) :
    name ∈ Text.findAll find l ↔ HasPiece IsPiece name l := by
  rw [Text.findAll_eq_map_findsByColumn hApart, List.mem_map, hasPiece_iff_exists_column]
  constructor
  · intro hInLine
    obtain ⟨⟨name', column⟩, hMem, rfl⟩ := hInLine
    exact ⟨column, hReads.find_drop_iff.1 (Text.mem_findsByColumn.1 hMem)⟩
  · intro hBegins
    obtain ⟨column, hPiece⟩ := hBegins
    exact ⟨(name, column), Text.mem_findsByColumn.2 (hReads.find_drop_iff.2 hPiece), rfl⟩

/-- Nothing is found in a line without a character that stands in every piece. -/
theorem Reads.findAll_eq_nil (hReads : Reads find IsPiece) {x : Char}
    (hEvery : ∀ {name piece}, IsPiece name piece → x ∈ piece) (hx : x ∉ l) :
    Text.findAll find l = [] := by
  rw [List.eq_nil_iff_forall_not_mem]
  intro name hFound
  obtain ⟨column, size, hFind⟩ := Text.exists_find_of_mem_findAll hFound
  obtain ⟨piece, hName, hPrefix, -⟩ := hReads.find_iff.1 hFind
  exact hx (List.mem_of_mem_drop (hPrefix.subset (hEvery hName)))

/-- **The names of a text, exactly.** A name is mentioned with a line if and
only if the line contains a piece of that name and no earlier line does. No
name is mentioned twice, and the names come in the order of the places where
their pieces stand first. -/
theorem Reads.mentions_exact (hReads : Reads find IsPiece) (hApart : Text.FindsApart find)
    (text : String) :
    (∀ name n, (⟨name, n⟩ : Mention) ∈ mentions find text ↔
      (∃ l, Text.IsLine text n l ∧ HasPiece IsPiece name l) ∧
        ∀ m < n, ∀ l, Text.IsLine text m l → ¬ HasPiece IsPiece name l) ∧
    ((mentions find text).map (·.name)).Nodup ∧
    ∃ column : Mention → Nat,
      (∀ m ∈ mentions find text, FirstPieceAt IsPiece text m.name m.line (column m)) ∧
      (mentions find text).Pairwise fun m m' => Before m.line (column m) m'.line (column m') := by
  refine ⟨fun name n => ?_, nodup_map_name_mentions, ?_⟩
  · rw [mem_mentions_iff hApart, exists_firstFoundAt_iff]
    simp only [hReads.foundAt_iff, ← not_exists, exists_pieceAt_iff]
    simp only [not_exists, not_and]
  · obtain ⟨column, hFirst, hOrder⟩ := mentions_in_order hApart text
    exact ⟨column, fun m hm => hReads.firstFoundAt_iff.1 (hFirst m hm), hOrder⟩

end SourceLint
