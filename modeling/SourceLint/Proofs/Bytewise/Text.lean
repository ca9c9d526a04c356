import Mathlib.Data.List.Forall2
import SourceLint.Bytewise.Text
import SourceLint.Proofs.Traverse

/-!
# Spelling and reading

The bytes of a text spell that text and no other, and they are ordered as their
texts are. A character below 128 is its own byte, and no other character has such
a byte, so slashes and dots are found in the bytes where they are in the text.

* `bytes_cases`       — the bytes of a character.
* `decode_spell`      — the characters that the bytes of a text spell.
* `spell_injective`   — the text is told by its bytes.
* `compare_spell`     — bytes are ordered as texts are.
* `mem_spellChar_iff` — where an ASCII character is found.
-/

namespace SourceLint.Bytewise

-- ---------------------------------------------------------------------------
-- The bytes of a character
-- ---------------------------------------------------------------------------

theorem map_toNat_spellChar (c : Char) :
    (spellChar c).map Char.toNat = (String.utf8EncodeChar c).map UInt8.toNat := by
  rw [spellChar, List.map_map]
  rfl

/-- Numbers of characters are below the last one and no surrogates. -/
theorem toNat_char (c : Char) : c.toNat < 0xD800 ∨ 0xDFFF < c.toNat ∧ c.toNat < 0x110000 :=
  c.valid

/-- The bytes of a character, by the number of its bytes. -/
theorem bytes_cases (c : Char) :
    (c.toNat < 0x80 ∧ (spellChar c).map Char.toNat = [c.toNat]) ∨
    (0x80 ≤ c.toNat ∧ c.toNat < 0x800 ∧
      (spellChar c).map Char.toNat = [0xC0 + c.toNat / 64, 0x80 + c.toNat % 64]) ∨
    (0x800 ≤ c.toNat ∧ c.toNat < 0x10000 ∧
      (spellChar c).map Char.toNat =
        [0xE0 + c.toNat / 4096, 0x80 + c.toNat / 64 % 64, 0x80 + c.toNat % 64]) ∨
    (0x10000 ≤ c.toNat ∧
      (spellChar c).map Char.toNat =
        [0xF0 + c.toNat / 262144, 0x80 + c.toNat / 4096 % 64, 0x80 + c.toNat / 64 % 64,
          0x80 + c.toNat % 64]) := by
  have hValid := toNat_char c
  have hVal : c.val.toNat = c.toNat := rfl
  rw [map_toNat_spellChar, String.utf8EncodeChar]
  simp only [hVal]
  by_cases h1 : c.toNat ≤ 127
  · refine Or.inl ⟨by omega, ?_⟩
    simp only [if_pos h1, List.map_cons, List.map_nil, UInt8.toNat_ofNat']
    congr 1
    omega
  · refine Or.inr ?_
    by_cases h2 : c.toNat ≤ 2047
    · refine Or.inl ⟨by omega, by omega, ?_⟩
      simp only [if_neg h1, if_pos h2, List.map_cons, List.map_nil, UInt8.toNat_ofNat',
        List.cons.injEq, and_true]
      omega
    · refine Or.inr ?_
      by_cases h3 : c.toNat ≤ 65535
      · refine Or.inl ⟨by omega, by omega, ?_⟩
        simp only [if_neg h1, if_neg h2, if_pos h3, List.map_cons, List.map_nil,
          UInt8.toNat_ofNat', List.cons.injEq, and_true]
        omega
      · refine Or.inr ⟨by omega, ?_⟩
        simp only [if_neg h1, if_neg h2, if_neg h3, List.map_cons, List.map_nil,
          UInt8.toNat_ofNat', List.cons.injEq, and_true]
        omega

-- ---------------------------------------------------------------------------
-- Reading what was spelled
-- ---------------------------------------------------------------------------

theorem decodeFrom_append (tail rest : List Nat) :
    decodeFrom tail.length (tail ++ rest) = decodeFrom 0 rest := by
  induction tail with
  | nil => rfl
  | cons b tail ih => exact ih

/-- The bytes lie in the ranges, one in each. -/
def Fits (ranges : List Range) (tail : List Nat) : Prop :=
  List.Forall₂ (fun r b => r.first ≤ b ∧ b ≤ r.last) ranges tail

theorem within_append {ranges : List Range} {tail : List Nat} (h : Fits ranges tail)
    (rest : List Nat) : within ranges (tail ++ rest) = tail := by
  induction h with
  | nil => rfl
  | cons hIn _ ih => rw [List.cons_append, within, if_pos hIn, ih]

/-- The bytes are all that may follow the first byte of a character. -/
def Follows (first : Nat) (tail : List Nat) : Prop :=
  ∃ ranges, following? first = some ranges ∧ Fits ranges tail

/-- A first byte and all that may follow it are read as one character. -/
theorem decodeFrom_of_follows {first : Nat} {tail : List Nat} (h : Follows first tail) {c : Char}
    (hCode : codePoint first tail = c.toNat) (rest : List Nat) :
    decodeFrom 0 (first :: (tail ++ rest)) = some c :: decodeFrom 0 rest := by
  obtain ⟨ranges, hFirst, hTail⟩ := h
  have hLength : tail.length = ranges.length := hTail.length_eq.symm
  have hRead : readFirst first (tail ++ rest) = (some c, tail.length) := by
    rw [readFirst, hFirst]
    simp only [within_append hTail, if_pos hLength, hCode, Char.ofNat_toNat]
  rw [decodeFrom, hRead, decodeFrom_append]

section Follows

variable {n : Nat}

/-- Six bits of a number make a byte of a tail. -/
theorem mem_tail (n : Nat) : 0x80 ≤ 0x80 + n % 64 ∧ 0x80 + n % 64 ≤ 0xBF := by omega

theorem follows_two (h : 0x80 ≤ n) (h' : n < 0x800) :
    Follows (0xC0 + n / 64) [0x80 + n % 64] := by
  refine ⟨[.tail], ?_, .cons (mem_tail _) .nil⟩
  unfold following?
  rw [if_neg (by omega), if_neg (by omega), if_pos (by omega)]

/-- Behind the first of three bytes long forms of small numbers and surrogates
have no place. -/
theorem follows_three (h : 0x800 ≤ n) (h' : n < 0x10000) (hChar : n < 0xD800 ∨ 0xDFFF < n) :
    Follows (0xE0 + n / 4096) [0x80 + n / 64 % 64, 0x80 + n % 64] := by
  unfold Follows following?
  rw [if_neg (by omega), if_neg (by omega), if_neg (by omega)]
  by_cases hLow : 0xE0 + n / 4096 = 0xE0
  · rw [if_pos hLow]
    exact ⟨_, rfl, .cons (by simp only; omega) (.cons (mem_tail _) .nil)⟩
  rw [if_neg hLow]
  by_cases hHigh : 0xE0 + n / 4096 = 0xED
  · rw [if_pos hHigh]
    exact ⟨_, rfl, .cons (by simp only; omega) (.cons (mem_tail _) .nil)⟩
  · rw [if_neg hHigh, if_pos (by omega)]
    exact ⟨_, rfl, .cons (mem_tail _) (.cons (mem_tail _) .nil)⟩

/-- Behind the first of four bytes long forms of small numbers and numbers
beyond the last character have no place. -/
theorem follows_four (h : 0x10000 ≤ n) (h' : n < 0x110000) :
    Follows (0xF0 + n / 262144)
      [0x80 + n / 4096 % 64, 0x80 + n / 64 % 64, 0x80 + n % 64] := by
  unfold Follows following?
  rw [if_neg (by omega), if_neg (by omega), if_neg (by omega), if_neg (by omega),
    if_neg (by omega), if_neg (by omega)]
  by_cases hLow : 0xF0 + n / 262144 = 0xF0
  · rw [if_pos hLow]
    exact ⟨_, rfl, .cons (by simp only; omega) (.cons (mem_tail _) (.cons (mem_tail _) .nil))⟩
  rw [if_neg hLow]
  by_cases hHigh : 0xF0 + n / 262144 = 0xF4
  · rw [if_neg (by omega), if_pos hHigh]
    exact ⟨_, rfl, .cons (by simp only; omega) (.cons (mem_tail _) (.cons (mem_tail _) .nil))⟩
  · rw [if_pos (by omega)]
    exact ⟨_, rfl, .cons (mem_tail _) (.cons (mem_tail _) (.cons (mem_tail _) .nil))⟩

end Follows

/-- The bytes of a character are read as that character. -/
theorem decodeFrom_spellChar (c : Char) (rest : List Nat) :
    decodeFrom 0 ((spellChar c).map Char.toNat ++ rest) = some c :: decodeFrom 0 rest := by
  have hValid := toNat_char c
  rcases bytes_cases c with ⟨h, hBytes⟩ | ⟨h, h', hBytes⟩ | ⟨h, h', hBytes⟩ | ⟨h, hBytes⟩
  all_goals rw [hBytes]
  · exact decodeFrom_of_follows ⟨[], if_pos h, .nil⟩ rfl rest
  · refine decodeFrom_of_follows (follows_two h h') ?_ rest
    simp only [codePoint, highBits, List.foldl_cons, List.foldl_nil]
    omega
  · refine decodeFrom_of_follows (follows_three h h' (by omega)) ?_ rest
    simp only [codePoint, highBits, List.foldl_cons, List.foldl_nil]
    omega
  · refine decodeFrom_of_follows (follows_four h (by omega)) ?_ rest
    simp only [codePoint, highBits, List.foldl_cons, List.foldl_nil]
    omega

@[simp] theorem toList_spell (s : String) : (spell s).toList = spellChars s.toList :=
  String.toList_ofList

@[simp] theorem spellChars_nil : spellChars [] = [] := rfl

@[simp] theorem spellChars_cons (c : Char) (cs : List Char) :
    spellChars (c :: cs) = spellChar c ++ spellChars cs :=
  List.flatMap_cons

@[simp] theorem spellChars_append (as bs : List Char) :
    spellChars (as ++ bs) = spellChars as ++ spellChars bs :=
  List.flatMap_append

theorem decodeFrom_spellChars (cs : List Char) :
    decodeFrom 0 ((spellChars cs).map Char.toNat) = cs.map some := by
  induction cs with
  | nil => rfl
  | cons c cs ih =>
    rw [spellChars_cons, List.map_append, decodeFrom_spellChar, ih, List.map_cons]

/-- **The bytes of a text spell its characters.** -/
theorem decode_spell (s : String) : decode (spell s) = s.toList.map some := by
  rw [decode, toList_spell, decodeFrom_spellChars]

theorem text?_spell (s : String) : text? (spell s) = some s := by
  have hAll : (s.toList.map some).mapM id = some s.toList := by
    rw [List.mapM_map]
    exact (mapM_eq_some fun _ _ => rfl).trans (congrArg some (List.map_id _))
  rw [text?, decode_spell, hAll, Option.map_some, String.ofList_toList]

/-- A text is shown as it is. -/
theorem lossy_spell (s : String) : lossy (spell s) = s := by
  rw [lossy, decode_spell, List.map_map]
  exact (congrArg String.ofList (List.map_id _)).trans String.ofList_toList

theorem spell_injective : Function.Injective spell := fun s t h => by
  rw [← lossy_spell s, h, lossy_spell]

theorem spellChars_injective : Function.Injective spellChars := fun as bs h => by
  have hSpell : spell (String.ofList as) = spell (String.ofList bs) := by
    rw [spell, spell, String.toList_ofList, String.toList_ofList, h]
  exact String.ofList_injective (spell_injective hSpell)

-- ---------------------------------------------------------------------------
-- ASCII characters
-- ---------------------------------------------------------------------------

theorem spellChar_ascii {c : Char} (h : c.toNat < 0x80) : spellChar c = [c] := by
  rcases bytes_cases c with ⟨-, hBytes⟩ | ⟨hNot, -⟩ | ⟨hNot, -⟩ | ⟨hNot, -⟩
  · exact List.map_injective_iff.2 (fun _ _ => Char.toNat_inj.1) hBytes
  all_goals omega

/-- Bytes below 128 are characters by themselves. -/
theorem mem_spellChar_iff {a : Char} (ha : a.toNat < 0x80) {c : Char} :
    a ∈ spellChar c ↔ a = c := by
  constructor
  · intro hMem
    have hByte : a.toNat ∈ (spellChar c).map Char.toNat := List.mem_map_of_mem hMem
    rcases bytes_cases c with ⟨-, hBytes⟩ | ⟨-, -, hBytes⟩ | ⟨-, -, hBytes⟩ | ⟨-, hBytes⟩
    · rw [hBytes, List.mem_singleton] at hByte
      exact Char.toNat_inj.1 hByte
    all_goals
      rw [hBytes] at hByte
      simp only [List.mem_cons, List.not_mem_nil, or_false] at hByte
      omega
  · rintro rfl
    rw [spellChar_ascii ha]
    exact List.mem_singleton_self _

theorem spellChar_ne_nil (c : Char) : spellChar c ≠ [] := by
  intro hNil
  rcases bytes_cases c with ⟨-, hBytes⟩ | ⟨-, -, hBytes⟩ | ⟨-, -, hBytes⟩ | ⟨-, hBytes⟩
  all_goals
    rw [hNil] at hBytes
    cases hBytes

-- ---------------------------------------------------------------------------
-- Length and order
-- ---------------------------------------------------------------------------

theorem length_spellChars (cs : List Char) :
    (spellChars cs).length = (String.ofList cs).utf8ByteSize := by
  induction cs with
  | nil => rfl
  | cons c cs ih =>
    rw [spellChars_cons, List.length_append, ih, String.ofList_cons, String.utf8ByteSize_append,
      String.utf8ByteSize_singleton, spellChar, List.length_map, String.length_utf8EncodeChar]

/-- There are as many bytes as the text has. -/
theorem length_spell (s : String) : (spell s).length = s.utf8ByteSize := by
  rw [spell, String.length_ofList, length_spellChars, String.ofList_toList]

theorem lt_of_map_toNat {as bs : List Char} (h : as.map Char.toNat < bs.map Char.toNat) :
    as < bs := by
  induction as generalizing bs with
  | nil =>
    cases bs with
    | nil => exact absurd h (List.lt_irrefl _)
    | cons b bs => exact List.nil_lt_cons b bs
  | cons a as ih =>
    cases bs with
    | nil => exact absurd h (List.not_lt_nil _)
    | cons b bs =>
      rw [List.map_cons, List.map_cons, List.cons_lt_cons_iff] at h
      rw [List.cons_lt_cons_iff]
      rcases h with hLt | ⟨hEq, hRest⟩
      · exact Or.inl hLt
      · exact Or.inr ⟨Char.toNat_inj.1 hEq, ih hRest⟩

/-- A smaller character has smaller bytes, whatever follows. -/
theorem spellChar_lt {c d : Char} (h : c < d) (xs ys : List Char) :
    spellChar c ++ xs < spellChar d ++ ys := by
  have hLt : c.toNat < d.toNat := h
  apply lt_of_map_toNat
  rw [List.map_append, List.map_append]
  rcases bytes_cases c with ⟨hc, hBytes⟩ | ⟨hc, hc', hBytes⟩ | ⟨hc, hc', hBytes⟩ | ⟨hc, hBytes⟩
  all_goals
    rcases bytes_cases d with ⟨hd, hBytes'⟩ | ⟨hd, hd', hBytes'⟩ | ⟨hd, hd', hBytes'⟩ |
      ⟨hd, hBytes'⟩
  all_goals
    rw [hBytes, hBytes']
    simp only [List.cons_append, List.nil_append, List.cons_lt_cons_iff]
    omega

theorem spellChars_lt {as bs : List Char} (h : as < bs) : spellChars as < spellChars bs := by
  induction as generalizing bs with
  | nil =>
    cases bs with
    | nil => exact absurd h (List.lt_irrefl _)
    | cons b bs =>
      obtain ⟨x, xs, hCons⟩ := List.exists_cons_of_ne_nil (spellChar_ne_nil b)
      rw [spellChars_cons, hCons]
      exact List.nil_lt_cons ..
  | cons a as ih =>
    cases bs with
    | nil => exact absurd h (List.not_lt_nil _)
    | cons b bs =>
      rw [List.cons_lt_cons_iff] at h
      rw [spellChars_cons, spellChars_cons]
      rcases h with hLt | ⟨rfl, hRest⟩
      · exact spellChar_lt hLt _ _
      · exact List.append_left_lt (ih hRest)

theorem spell_lt {s t : String} (h : s < t) : spell s < spell t := by
  rw [String.lt_iff, toList_spell, toList_spell]
  exact spellChars_lt (String.lt_iff.1 h)

/-- **Bytes are ordered as their texts are.** -/
theorem compare_spell (s t : String) : compare (spell s) (spell t) = compare s t := by
  have hLt : ∀ s t : String, compare s t = .lt ↔ s < t := fun _ _ => compareOfLessAndEq_eq_lt
  cases h : compare s t with
  | lt => exact (hLt ..).2 (spell_lt ((hLt ..).1 h))
  | eq => rw [Std.LawfulEqCmp.eq_of_compare h]; exact Std.ReflCmp.compare_self
  | gt =>
    rw [Std.OrientedCmp.gt_iff_lt, hLt] at h ⊢
    exact spell_lt h

end SourceLint.Bytewise
