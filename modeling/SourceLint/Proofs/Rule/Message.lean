import SourceLint.Knowledge.Builtin
import SourceLint.Proofs.Path.Steps
import SourceLint.Proofs.Rule.SystemIncludes
import SourceLint.Proofs.Text.Uppercase
import SourceLint.Rule.Check

/-!
# Messages are single lines

A message is put together from fixed words, a number, and names: the guard or
the group of a path, a symbol of the text, a header. None of these has a
character that ends a line, whatever the path and the text are, so a message is
one line wherever it is shown (`oneLine_message`).

* `oneLine_expectedGuard`, `oneLine_expectedGroup`  — names made from a path.
* `oneLine_of_mem_reconcile`                        — names taken from a text.
* `oneLine_message`                                 — every message.
-/

namespace SourceLint

-- ---------------------------------------------------------------------------
-- Texts of one line
-- ---------------------------------------------------------------------------

/-- No character of the text ends a line. -/
def OneLine (cs : List Char) : Prop :=
  ∀ c ∈ cs, c ≠ '\n' ∧ c ≠ '\r'

instance (cs : List Char) : Decidable (OneLine cs) :=
  List.decidableBAll _ _

variable {as bs : List Char}

theorem oneLine_append : OneLine (as ++ bs) ↔ OneLine as ∧ OneLine bs :=
  List.forall_mem_append

/-- No line break begins inside one line or at its end. -/
theorem OneLine.unbroken (h : OneLine as) : '\n' ∉ as ∧ as.getLast? ≠ some '\r' :=
  ⟨fun hMem => (h _ hMem).1 rfl, fun hLast => (h _ (List.mem_of_getLast? hLast)).2 rfl⟩

/-- A text is one line if all its characters are of a kind that the characters
that end a line are not of. -/
theorem oneLine_of_forall {p : Char → Bool} (h : ∀ c ∈ as, p c = true)
    (hNewline : p '\n' = false) (hReturn : p '\r' = false) : OneLine as := by
  intro c hc
  refine ⟨?_, ?_⟩
  · rintro rfl
    exact Bool.false_ne_true (hNewline.symm.trans (h _ hc))
  · rintro rfl
    exact Bool.false_ne_true (hReturn.symm.trans (h _ hc))

theorem oneLine_toString (n : Nat) : OneLine (toString n).toList := by
  rw [Nat.toString_eq_ofList_toDigits, String.toList_ofList]
  have hDigits : ∀ c ∈ Nat.toDigits 10 n, c.isDigit = true := fun _ hc =>
    Nat.isDigit_of_mem_toDigits (by decide) (by decide) hc
  exact oneLine_of_forall hDigits rfl rfl

-- ---------------------------------------------------------------------------
-- Names made from a path
-- ---------------------------------------------------------------------------

/-- A guard has capital letters, digits and `_` only. -/
theorem mem_expectedGuard {names : List String} {c : Char}
    (hc : c ∈ (expectedGuard names).toList) : (c.isUpper || c.isDigit || c == '_') = true := by
  rw [expectedGuard, String.toList_ofList] at hc
  rcases Path.mem_of_mem_intercalate hc with hUnderscore | ⟨m, hm, hc⟩
  · rw [List.mem_singleton.1 hUnderscore]
    rfl
  · obtain ⟨name, -, rfl⟩ := List.mem_map.1 hm
    obtain ⟨d, -, rfl⟩ := List.mem_map.1 hc
    rw [guardChar]
    split
    case isTrue h => rw [h, Bool.true_or]
    case isFalse => rfl

theorem oneLine_expectedGuard (names : List String) : OneLine (expectedGuard names).toList :=
  oneLine_of_forall (fun _ hc => mem_expectedGuard hc) rfl rfl

theorem splitUnderscore_ne_nil (cs : List Char) : splitUnderscore cs ≠ [] := by
  cases cs with
  | nil => exact List.cons_ne_nil _ _
  | cons c cs =>
    rw [splitUnderscore]
    split
    · exact List.cons_ne_nil _ _
    · split <;> exact List.cons_ne_nil _ _

theorem mem_of_mem_splitUnderscore {c : Char} {cs w : List Char} (hw : w ∈ splitUnderscore cs)
    (hc : c ∈ w) : c ∈ cs ∧ c ≠ '_' := by
  induction cs generalizing w with
  | nil =>
    rw [splitUnderscore, List.mem_singleton] at hw
    exact absurd (hw ▸ hc) List.not_mem_nil
  | cons d cs ih =>
    have hRest : ∀ {u}, u ∈ splitUnderscore cs → c ∈ u → c ∈ d :: cs ∧ c ≠ '_' :=
      fun hu hcu => (ih hu hcu).imp_left (List.mem_cons_of_mem d)
    rw [splitUnderscore] at hw
    cases hSplit : splitUnderscore cs with
    | nil =>
      -- a text has at least one part
      exact absurd hSplit (splitUnderscore_ne_nil cs)
    | cons u us =>
      rw [hSplit] at hw hRest
      dsimp only at hw
      by_cases hd : d = '_'
      · rw [if_pos hd, List.mem_cons] at hw
        rcases hw with rfl | hw
        · exact absurd hc List.not_mem_nil
        · exact hRest hw hc
      · rw [if_neg hd, List.mem_cons] at hw
        rcases hw with rfl | hw
        · rcases List.mem_cons.1 hc with rfl | hc
          · exact ⟨List.mem_cons_self .., hd⟩
          · exact hRest (List.mem_cons_self ..) hc
        · exact hRest (List.mem_cons_of_mem _ hw) hc

/-- The parts of a group are spelled with letters, digits and `_`. -/
theorem mem_groupParts {p : Path} {part : List Char} {c : Char} (hPart : part ∈ groupParts p)
    (hc : c ∈ part) : c.isAlphanum = true ∨ c = '_' := by
  have hPlain : ∀ {name : List Char}, c ∈ plainSpelling name → c.isAlphanum = true ∨ c = '_' := by
    intro name hName
    obtain ⟨d, -, rfl⟩ := List.mem_map.1 hName
    split
    case isTrue h => exact Or.inl h
    case isFalse => exact Or.inr rfl
  rw [groupParts, List.mem_append, List.mem_filterMap] at hPart
  rcases hPart with ⟨d, -, hHead⟩ | hName
  · obtain ⟨first, hFirst, rfl⟩ := Option.map_eq_some_iff.1 hHead
    rw [List.mem_singleton.1 hc] at hPlain ⊢
    exact hPlain (List.mem_of_head? hFirst)
  · obtain ⟨name, -, rfl⟩ := Option.map_eq_some_iff.1 (Option.mem_toList.1 hName)
    exact hPlain hc

/-- A group has letters and digits only. -/
theorem mem_expectedGroup {p : Path} {c : Char} (hc : c ∈ (expectedGroup p).toList) :
    c.isAlphanum = true := by
  rw [expectedGroup, String.toList_ofList, pascalCase, List.mem_flatMap] at hc
  obtain ⟨word, hWord, hc⟩ := hc
  have hPlain : ∀ d ∈ word, d.isAlphanum = true := by
    intro d hd
    obtain ⟨hSpelled, hNe⟩ := mem_of_mem_splitUnderscore hWord hd
    rcases Path.mem_of_mem_intercalate hSpelled with hUnderscore | ⟨part, hPart, hd⟩
    · exact absurd (List.mem_singleton.1 hUnderscore) hNe
    · exact (mem_groupParts hPart hd).resolve_right hNe
  cases word with
  | nil => exact absurd hc List.not_mem_nil
  | cons first others =>
    obtain ⟨hFirst, hOthers⟩ := List.forall_mem_cons.1 hPlain
    rcases List.mem_cons.1 hc with rfl | hc
    · exact (isAlphanum_cased hFirst).1
    · obtain ⟨d, hd, rfl⟩ := List.mem_map.1 hc
      exact (isAlphanum_cased (hOthers d hd)).2

theorem oneLine_expectedGroup (p : Path) : OneLine (expectedGroup p).toList :=
  oneLine_of_forall (fun _ hc => mem_expectedGroup hc) rfl rfl

-- ---------------------------------------------------------------------------
-- Names taken from a text
-- ---------------------------------------------------------------------------

theorem oneLine_of_wellNamed {p : IncludeProblem} (hNamed : p.WellNamed)
    (hHeader : ∀ s h n, p = .missing s h n → OneLine h.toList) : OneLine p.message.toList := by
  have hSymbol : ∀ {s : String}, (∀ c ∈ s.toList, isNameChar c = true) → OneLine s.toList :=
    fun hChars => oneLine_of_forall hChars (by decide) (by decide)
  rw [IncludeProblem.toList_message, ← List.singleton_append, oneLine_append, oneLine_append]
  cases p with
  | unknown symbol line =>
    have hNo : OneLine "No".toList := by decide
    exact ⟨hNo, by decide, oneLine_append.2 ⟨by decide, hSymbol hNamed.2⟩⟩
  | missing symbol header line =>
    exact ⟨hSymbol hNamed.2, by decide, oneLine_append.2 ⟨by decide, hHeader _ _ _ rfl⟩⟩
  | excess header line =>
    have hChars : ∀ c ∈ header.toList, isHeaderChar c = true := fun c hc =>
      isHeaderChar_iff.2 (hNamed.2 c hc)
    have hRest : OneLine "included but not required".toList := by decide
    exact ⟨oneLine_of_forall hChars (by decide) (by decide), by decide, hRest⟩

variable {k : Knowledge} {text : String}

/-- Symbols and headers of a text have no line break in them, so if the known
headers have none, no message has one. -/
theorem oneLine_of_mem_reconcile (hHeaders : ∀ s h, k.lookup s = some h → OneLine h.toList)
    {p : IncludeProblem} (hp : p ∈ reconcile k text) : OneLine p.message.toList := by
  refine oneLine_of_wellNamed (wellNamed_of_mem_reconcile hp) ?_
  rintro s h n rfl
  exact hHeaders s h (missing_mem_reconcile.1 hp).2.1

theorem oneLine_of_lookup_builtin {s h : String} (hLookup : Knowledge.builtin.lookup s = some h) :
    OneLine h.toList := by
  have hEntries : ∀ e ∈ Knowledge.builtinEntries, OneLine e.2.toList := by
    decide +kernel
  obtain ⟨before, after, hSplit, -⟩ := List.lookup_eq_some_iff.1 hLookup
  have hEntry : (s, h) ∈ Knowledge.builtin.entries := by
    rw [hSplit]
    exact List.mem_append_right _ (List.mem_cons_self ..)
  exact hEntries (s, h) ((distinctOn_sublist _).mem hEntry)

-- ---------------------------------------------------------------------------
-- Messages
-- ---------------------------------------------------------------------------

/-- **A message is one line**, whatever is checked. -/
theorem oneLine_message {context : Rule.Context} {file : SourceFile} {r : Rule} {v : Violation}
    (hHeaders : ∀ s h, context.knowledge.lookup s = some h → OneLine h.toList)
    (hv : v ∈ Rule.check context file r) : OneLine v.message.toList := by
  cases r with
  | headerGuard =>
    rw [Rule.check, Rule.checkHeaderGuard] at hv
    split at hv
    · rw [List.mem_singleton.1 hv]
      simp only [Rule.violation, String.toList_append, oneLine_append]
      exact ⟨⟨by decide, oneLine_expectedGuard _⟩, by decide⟩
    · exact absurd hv List.not_mem_nil
  | testGroup =>
    rw [Rule.check, Rule.checkTestGroup] at hv
    split at hv
    · obtain ⟨m, -, rfl⟩ := List.mem_map.1 hv
      simp only [Rule.violation, String.toList_append, oneLine_append]
      exact ⟨⟨by decide, oneLine_expectedGroup _⟩, by decide⟩
    · exact absurd hv List.not_mem_nil
  | systemIncludes =>
    obtain ⟨p, hp, rfl⟩ := List.mem_map.1 hv
    exact oneLine_of_mem_reconcile hHeaders hp
  | lineLength =>
    obtain ⟨⟨l, n⟩, -, rfl⟩ := List.mem_map.1 hv
    simp only [Rule.violation, String.toList_append, oneLine_append]
    exact ⟨⟨by decide, oneLine_toString _⟩, by decide⟩

end SourceLint
