import Mathlib.Data.List.Basic
import SourceLint.Glob.Match
import SourceLint.Proofs.Path.Steps
import SourceLint.Proofs.Traverse

/-!
# Patterns — escaped texts

An escaped text describes only itself, and it can stand in front of any
pattern: what follows is read as it would be read elsewhere, positions apart.
Slashes are not escaped, so the parts of an escaped text are the escaped parts.

* `toOption_parseFrom_escape` — what stands behind an escaped text.
* `accepts_escapedPattern`    — an escaped text describes only itself.
* `literal?_escapedPattern`   — it is spelled out unless it is special.
* `splitSlash_escape`         — the parts of an escaped text.
-/

namespace SourceLint.Glob

-- ---------------------------------------------------------------------------
-- The position does not matter
-- ---------------------------------------------------------------------------

/-- The states differ at most in where a class was opened. -/
inductive SameState : State → State → Prop
  | outside (fresh : Bool) : SameState (.outside fresh) (.outside fresh)
  | inside (opened opened' : Nat) (negated : Bool) (seen : List Char) :
      SameState (.inside opened negated seen) (.inside opened' negated seen)

/-- Positions only show in faults. -/
theorem toOption_parseFrom (n m : Nat) {s s' : State} (cs : List Char) (h : SameState s s') :
    (parseFrom n s cs).toOption = (parseFrom m s' cs).toOption := by
  fun_induction parseFrom n s cs generalizing m s' with
  | case1 n fresh => cases h; rfl
  | case2 n opened negated seen => cases h; rfl
  | case3 n opened negated seen c cs hClose ranges ih =>
    cases h with
    | inside _ opened' =>
      rw [parseFrom, if_pos hClose, toOption_map, toOption_map, ih (m + 1) (.outside false)]
  | case4 n opened negated seen c cs hOpen ih =>
    cases h with
    | inside _ opened' => rw [parseFrom, if_neg hOpen, ih (m + 1) (.inside ..)]
  | case5 n fresh cs ih =>
    cases h
    rw [parseFrom, toOption_map, toOption_map, ih (m + 1) (.outside false)]
  | case6 n fresh cs => cases h; cases fresh <;> rfl
  | case7 n cs hStar =>
    cases h
    rw [parseFrom]
    · rfl
    · exact hStar
  | case8 n cs ih =>
    cases h
    rw [parseFrom, toOption_map, toOption_map, ih (m + 3) (.outside true)]
  | case9 n => cases h; rfl
  | case10 n cs _ _ _ =>
    cases h
    rw [parseFrom]
    · rfl
    all_goals assumption
  | case11 n fresh cs _ _ _ _ _ ih =>
    cases h
    rw [parseFrom, toOption_map, toOption_map, ih (m + 1) (.outside false)]
    all_goals assumption
  | case12 n fresh cs ih =>
    cases h
    rw [parseFrom, ih (m + 2) (.inside ..)]
  | case13 n fresh cs _ ih =>
    cases h
    rw [parseFrom, ih (m + 1) (.inside ..)]
    assumption
  | case14 n fresh c cs _ _ _ _ _ _ _ _ _ ih =>
    cases h
    rw [parseFrom, toOption_map, toOption_map, ih (m + 1) (.outside _)]
    all_goals assumption

-- ---------------------------------------------------------------------------
-- Escaped texts
-- ---------------------------------------------------------------------------

/-- The character means something else in a pattern. -/
def IsSpecial (c : Char) : Prop :=
  c = '?' ∨ c = '*' ∨ c = '[' ∨ c = ']'

instance : DecidablePred IsSpecial := fun _ => inferInstanceAs (Decidable (_ ∨ _))

/-- What holds of all characters of a text is tested on the text; there is also
an instance that goes through all characters there are. -/
instance decidableForallMemChars (p : Char → Prop) [DecidablePred p] (cs : List Char) :
    Decidable (∀ c ∈ cs, p c) :=
  List.decidableBAll p cs

/-- The token that an escaped character is read as. -/
def escapedToken (c : Char) : Token :=
  if IsSpecial c then .oneOf [⟨c, c⟩] else .char c

/-- The pattern that an escaped text is read as. -/
def escapedPattern (cs : List Char) : Pattern :=
  ⟨cs.map escapedToken⟩

theorem escape_cons (c : Char) (cs : List Char) :
    escape (c :: cs) = (if IsSpecial c then ['[', c, ']'] else [c]) ++ escape cs := rfl

theorem escape_of_plain {cs : List Char} (h : ∀ c ∈ cs, ¬ IsSpecial c) : escape cs = cs := by
  induction cs with
  | nil => rfl
  | cons c cs ih =>
    obtain ⟨hc, hRest⟩ := List.forall_mem_cons.1 h
    rw [escape_cons, if_neg hc, ih hRest, List.singleton_append]

theorem parseFrom_plain_cons {c : Char} (hc : ¬ IsSpecial c) (n : Nat) (fresh : Bool)
    (rest : List Char) :
    parseFrom n (.outside fresh) (c :: rest) =
      (parseFrom (n + 1) (.outside (c = '/')) rest).map (.char c :: ·) := by
  simp only [IsSpecial, not_or] at hc
  obtain ⟨hAny, hStar, hOpen, -⟩ := hc
  rw [parseFrom] <;> intros <;> simp_all

theorem parseFrom_special_cons {c : Char} (hc : IsSpecial c) (n : Nat) (fresh : Bool)
    (rest : List Char) :
    parseFrom n (.outside fresh) ('[' :: c :: ']' :: rest) =
      (parseFrom (n + 3) (.outside false) rest).map (.oneOf [⟨c, c⟩] :: ·) := by
  rcases hc with rfl | rfl | rfl | rfl <;> rfl

/-- What stands behind an escaped text is read as it would be read elsewhere. -/
theorem toOption_parseFrom_escape (n m : Nat) (fresh : Bool) (cs rest : List Char) :
    (parseFrom n (.outside fresh) (escape cs ++ rest)).toOption =
      (parseFrom m (.outside (cs.foldl (fun _ c => decide (c = '/')) fresh)) rest).toOption.map
        (cs.map escapedToken ++ ·) := by
  induction cs generalizing n fresh with
  | nil =>
    rw [toOption_parseFrom n m _ (.outside fresh)]
    exact Option.map_id'.symm
  | cons c cs ih =>
    rw [escape_cons, List.append_assoc, List.foldl_cons, List.map_cons, escapedToken]
    split
    case isTrue hc =>
      have hSlash : decide (c = '/') = false := by
        rcases hc with rfl | rfl | rfl | rfl <;> rfl
      rw [List.cons_append, List.cons_append, List.cons_append, List.nil_append,
        parseFrom_special_cons hc, toOption_map, ih, hSlash, Option.map_map]
      rfl
    case isFalse hc =>
      rw [List.singleton_append, parseFrom_plain_cons hc, toOption_map, ih, Option.map_map]
      rfl

theorem parse_escape (cs : List Char) : Pattern.parse (escape cs) = .ok (escapedPattern cs) := by
  have hParse := toOption_parseFrom_escape 0 0 true cs []
  rw [List.append_nil, parseFrom, Except.toOption, Option.map_some, List.append_nil] at hParse
  rw [Pattern.parse, toOption_eq_some_iff.1 hParse]
  rfl

theorem acceptsChar_escapedToken (c d : Char) : (escapedToken c).acceptsChar d = (d == c) := by
  rw [escapedToken]
  split
  case isFalse => rfl
  case isTrue =>
    rw [Token.acceptsChar, inRanges, List.any_cons, List.any_nil, Bool.or_false, Bool.eq_iff_iff,
      Bool.and_eq_true, decide_eq_true_eq, decide_eq_true_eq, beq_iff_eq]
    exact ⟨fun h => Char.le_antisymm h.2 h.1, fun h => h ▸ ⟨Char.le_refl _, Char.le_refl _⟩⟩

theorem describes_escapedToken_cons (c : Char) (ts : List Token) (ds : List Char) :
    describes (escapedToken c :: ts) ds = true ↔ ∃ es, ds = c :: es ∧ describes ts es = true := by
  have hText : escapedToken c ≠ .anyText := by rw [escapedToken]; split <;> simp
  have hDirectories : escapedToken c ≠ .anyDirectories := by rw [escapedToken]; split <;> simp
  cases ds with
  | nil =>
    rw [describes]
    · simp
    all_goals assumption
  | cons d ds =>
    rw [describes, acceptsChar_escapedToken, Bool.and_eq_true, beq_iff_eq]
    · simp
    all_goals assumption

/-- What an escaped text stands in front of describes what stands behind that
text. -/
theorem describes_map_escapedToken_append (cs : List Char) (ts : List Token) (ds : List Char) :
    describes (cs.map escapedToken ++ ts) ds = true ↔
      ∃ es, ds = cs ++ es ∧ describes ts es = true := by
  induction cs generalizing ds with
  | nil => simp
  | cons c cs ih =>
    rw [List.map_cons, List.cons_append, describes_escapedToken_cons]
    constructor
    · rintro ⟨es, rfl, hRest⟩
      obtain ⟨fs, rfl, hBehind⟩ := (ih es).1 hRest
      exact ⟨fs, rfl, hBehind⟩
    · rintro ⟨fs, rfl, hBehind⟩
      exact ⟨cs ++ fs, rfl, (ih _).2 ⟨fs, rfl, hBehind⟩⟩

theorem describes_map_escapedToken (cs ds : List Char) :
    describes (cs.map escapedToken) ds = true ↔ ds = cs := by
  have hBehind := describes_map_escapedToken_append cs [] ds
  simpa [describes] using hBehind

/-- An escaped text describes only itself. -/
theorem accepts_escapedPattern (cs ds : List Char) :
    (escapedPattern cs).accepts ds = true ↔ ds = cs := by
  rw [Pattern.accepts_eq_describes]
  exact describes_map_escapedToken cs ds

theorem isRecursive_escapedPattern (cs : List Char) : (escapedPattern cs).isRecursive = false := by
  rw [Pattern.isRecursive, decide_eq_false_iff_not, escapedPattern, List.mem_map]
  rintro ⟨c, -, hToken⟩
  rw [escapedToken] at hToken
  split at hToken <;> cases hToken

/-- An escaped text without special characters is spelled out. -/
theorem literal?_escapedPattern (cs : List Char) :
    (escapedPattern cs).literal? =
      if ∀ c ∈ cs, ¬ IsSpecial c then some (String.ofList cs) else none := by
  have hChars : (cs.map escapedToken).mapM Pattern.charOf? =
      if ∀ c ∈ cs, ¬ IsSpecial c then some cs else none := by
    induction cs with
    | nil => rfl
    | cons c cs ih =>
      rw [List.map_cons, List.mapM_cons, ih, escapedToken]
      simp only [List.forall_mem_cons]
      by_cases hc : IsSpecial c
      · have hNot : ¬ (¬ IsSpecial c ∧ ∀ d ∈ cs, ¬ IsSpecial d) := fun h => h.1 hc
        rw [if_pos hc, if_neg hNot]
        rfl
      · by_cases hRest : ∀ d ∈ cs, ¬ IsSpecial d
        · rw [if_neg hc, if_pos hRest, if_pos ⟨hc, hRest⟩]
          rfl
        · have hNot : ¬ (¬ IsSpecial c ∧ ∀ d ∈ cs, ¬ IsSpecial d) := fun h => hRest h.2
          rw [if_neg hc, if_neg hRest, if_neg hNot]
          rfl
  rw [Pattern.literal?, escapedPattern, hChars]
  split <;> rfl

-- ---------------------------------------------------------------------------
-- Parts
-- ---------------------------------------------------------------------------

/-- The parts of an escaped text are the escaped parts. -/
theorem splitSlash_escape (cs : List Char) :
    Path.splitSlash (escape cs) = (Path.splitSlash cs).map escape := by
  refine Path.splitSlash_flatMap (by decide) (fun c hc => ?_) cs
  split <;> simp [Ne.symm hc]

end SourceLint.Glob
