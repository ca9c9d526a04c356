import Mathlib.Data.List.Basic
import SourceLint.Text.Uppercase

/-!
# Uppercasing — what it does to ASCII

Letters and digits are ASCII, and ASCII is small enough to be looked through
character by character. Full uppercasing does not see the case of a character:
among the ASCII letters both cases have one upper-case form, and any other
character is its own upper and lower case.

* `mem_asciiChars`  — the characters that are looked through.
* `uppercase_cased` — a character and its two cases are uppercased alike.
-/

namespace SourceLint

-- ---------------------------------------------------------------------------
-- ASCII
-- ---------------------------------------------------------------------------

/-- The ASCII characters. -/
def Text.asciiChars : List Char :=
  (List.range 128).map Char.ofNat

theorem Text.mem_asciiChars {c : Char} (h : c.toNat < 128) : c ∈ asciiChars :=
  List.mem_map.2 ⟨c.toNat, List.mem_range.2 h, Char.ofNat_toNat c⟩

theorem toNat_lt_of_isAlphanum {c : Char} (h : c.isAlphanum = true) : c.toNat < 128 := by
  delta Char.isAlphanum Char.isAlpha Char.isUpper Char.isLower Char.isDigit at h
  simp only [Bool.or_eq_true, Bool.and_eq_true, decide_eq_true_eq, UInt32.le_iff_toNat_le] at h
  have hUpper : 'Z'.val.toNat = 90 := rfl
  have hLower : 'z'.val.toNat = 122 := rfl
  have hDigit : '9'.val.toNat = 57 := rfl
  have hChar : c.toNat = c.val.toNat := rfl
  omega

/-- A letter or digit stays one in upper and in lower case. -/
theorem isAlphanum_cased {c : Char} (h : c.isAlphanum = true) :
    c.toUpper.isAlphanum = true ∧ c.toLower.isAlphanum = true := by
  have hAscii : ∀ c ∈ Text.asciiChars, c.isAlphanum = true →
      c.toUpper.isAlphanum = true ∧ c.toLower.isAlphanum = true := by
    decide +kernel
  exact hAscii c (Text.mem_asciiChars (toNat_lt_of_isAlphanum h)) h

-- ---------------------------------------------------------------------------
-- Upper case and lower case
-- ---------------------------------------------------------------------------

namespace Text

/-- Beyond ASCII a character is its own upper and lower case. -/
theorem cased_of_not_ascii {c : Char} (h : ¬ c.toNat < 128) : c.toUpper = c ∧ c.toLower = c := by
  have hLetter : ∀ d : Char, d.toNat < 128 → ¬ c.val ≤ d.val := by
    intro d hd hLe
    exact h (Nat.lt_of_le_of_lt (UInt32.le_iff_toNat_le.1 hLe) hd)
  exact ⟨dif_neg fun hRange => hLetter 'z' (by decide) hRange.2,
    dif_neg fun hRange => hLetter 'Z' (by decide) hRange.2⟩

/-- Uppercasing does not see the case of a character. -/
theorem uppercase_cased (c : Char) :
    uppercase c.toUpper = uppercase c ∧ uppercase c.toLower = uppercase c := by
  by_cases hAscii : c.toNat < 128
  · have hAll : ∀ c ∈ asciiChars,
        uppercase c.toUpper = uppercase c ∧ uppercase c.toLower = uppercase c := by
      decide +kernel
    exact hAll c (mem_asciiChars hAscii)
  · obtain ⟨hUpper, hLower⟩ := cased_of_not_ascii hAscii
    rw [hUpper, hLower]
    exact ⟨rfl, rfl⟩

end Text

end SourceLint
