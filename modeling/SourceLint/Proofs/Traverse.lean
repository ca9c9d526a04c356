import Mathlib.Data.List.Basic

/-!
# Going through a list with something that can fail

A list is gone through up to the first element that fails. Whether that happens
depends on the elements alone, and so does what comes of a list without one.

* `isSome_mapM`              — no element fails.
* `eq_map_of_ok`             — what comes of a list without a failure.
* `exists_of_mapM_eq_error`  — a failure is that of an element.
* `toOption_mapM`            — which failure it is may be forgotten.
* `exists_mapM_map`          — two results that are images of one.
-/

namespace SourceLint

variable {ε α β : Type}

-- ---------------------------------------------------------------------------
-- With a reason to fail
-- ---------------------------------------------------------------------------

section Except

variable {f : α → Except ε β} {g : α → β} {as : List α}

/-- Of two steps that succeed the first one succeeds. -/
theorem exists_of_bind_eq_ok {x : Except ε α} {k : α → Except ε β} {b : β} (h : x >>= k = .ok b) :
    ∃ a, x = .ok a ∧ k a = .ok b := by
  cases x with
  | error e => cases h
  | ok a => exact ⟨a, rfl, h⟩

theorem mapM_cons_eq_ok {a : α} {bs : List β} (h : (a :: as).mapM f = .ok bs) :
    ∃ c cs, f a = .ok c ∧ as.mapM f = .ok cs ∧ bs = c :: cs := by
  rw [List.mapM_cons] at h
  cases ha : f a with
  | error e => rw [ha] at h; cases h
  | ok c =>
    cases hRest : as.mapM f with
    | error e => rw [ha, hRest] at h; cases h
    | ok cs =>
      rw [ha, hRest] at h
      cases h
      exact ⟨c, cs, rfl, rfl, rfl⟩

theorem eq_map_of_ok {bs : List β} (h : as.mapM f = .ok bs)
    (hEach : ∀ a ∈ as, ∀ b, f a = .ok b → b = g a) : bs = as.map g := by
  induction as generalizing bs with
  | nil => cases h; rfl
  | cons a as ih =>
    obtain ⟨ha, hRest⟩ := List.forall_mem_cons.1 hEach
    obtain ⟨c, cs, hHead, hTail, rfl⟩ := mapM_cons_eq_ok h
    rw [ha c hHead, ih hTail hRest, List.map_cons]

theorem length_of_mapM {bs : List β} (h : as.mapM f = .ok bs) : bs.length = as.length := by
  induction as generalizing bs with
  | nil => cases h; rfl
  | cons a as ih =>
    obtain ⟨c, cs, -, hTail, rfl⟩ := mapM_cons_eq_ok h
    rw [List.length_cons, List.length_cons, ih hTail]

theorem exists_mem_of_mapM {bs : List β} (h : as.mapM f = .ok bs) {a : α} (ha : a ∈ as) :
    ∃ b, f a = .ok b ∧ b ∈ bs := by
  induction as generalizing bs with
  | nil => cases ha
  | cons a' as ih =>
    obtain ⟨c, cs, hHead, hTail, rfl⟩ := mapM_cons_eq_ok h
    rcases List.mem_cons.1 ha with rfl | ha
    · exact ⟨c, hHead, List.mem_cons_self ..⟩
    · obtain ⟨b, hOk, hb⟩ := ih hTail ha
      exact ⟨b, hOk, List.mem_cons_of_mem _ hb⟩

theorem exists_of_mem_mapM {bs : List β} (h : as.mapM f = .ok bs) {b : β} (hb : b ∈ bs) :
    ∃ a ∈ as, f a = .ok b := by
  induction as generalizing bs with
  | nil => cases h; cases hb
  | cons a as ih =>
    obtain ⟨c, cs, hHead, hTail, rfl⟩ := mapM_cons_eq_ok h
    rcases List.mem_cons.1 hb with rfl | hb
    · exact ⟨a, List.mem_cons_self .., hHead⟩
    · obtain ⟨a', ha', hOk⟩ := ih hTail hb
      exact ⟨a', List.mem_cons_of_mem _ ha', hOk⟩

theorem mapM_append_eq_ok {as' : List α} {cs : List β} (h : (as ++ as').mapM f = .ok cs) :
    ∃ bs bs', as.mapM f = .ok bs ∧ as'.mapM f = .ok bs' ∧ cs = bs ++ bs' := by
  rw [List.mapM_append] at h
  cases hFirst : as.mapM f with
  | error e => rw [hFirst] at h; cases h
  | ok bs =>
    cases hSecond : as'.mapM f with
    | error e => rw [hFirst, hSecond] at h; cases h
    | ok bs' =>
      rw [hFirst, hSecond] at h
      cases h
      exact ⟨bs, bs', rfl, rfl, rfl⟩

/-- A failure is that of an element. -/
theorem exists_of_mapM_eq_error {e : ε} (h : as.mapM f = .error e) : ∃ a ∈ as, f a = .error e := by
  induction as with
  | nil => cases h
  | cons a as ih =>
    rw [List.mapM_cons] at h
    cases ha : f a with
    | error e' =>
      rw [ha] at h
      cases h
      exact ⟨a, List.mem_cons_self .., ha⟩
    | ok b =>
      cases hRest : as.mapM f with
      | error e' =>
        rw [ha, hRest] at h
        cases h
        obtain ⟨a', ha', hFail⟩ := ih hRest
        exact ⟨a', List.mem_cons_of_mem _ ha', hFail⟩
      | ok bs => rw [ha, hRest] at h; cases h

theorem mapM_congr {f' : α → Except ε β} (h : ∀ a ∈ as, f a = f' a) : as.mapM f = as.mapM f' := by
  induction as with
  | nil => rfl
  | cons a as ih =>
    obtain ⟨ha, hRest⟩ := List.forall_mem_cons.1 h
    rw [List.mapM_cons, List.mapM_cons, ha, ih hRest]

/-- What comes of each element may be changed then or in the end. -/
theorem mapM_map_result {γ : Type} (g : β → γ) (f : α → Except ε β) (as : List α) :
    (as.mapM fun a => (f a).map g) = (as.mapM f).map (List.map g) := by
  induction as with
  | nil => rfl
  | cons a as ih =>
    rw [List.mapM_cons, List.mapM_cons, ih]
    cases f a with
    | error e => rfl
    | ok b => cases as.mapM f <;> rfl

/-- Elements may be left out before or after their lists are put together. -/
theorem map_filter_flatten (p : α → Bool) (lists : Except ε (List (List α))) :
    (lists.map (List.map (List.filter p))).map List.flatten =
      (lists.map List.flatten).map (List.filter p) := by
  cases lists with
  | error e => rfl
  | ok lists => exact congrArg Except.ok List.filter_flatten.symm

theorem map_map_result {γ : Type} (g : β → γ) (f : α → β) (x : Except ε α) :
    (x.map f).map g = x.map (g ∘ f) := by
  cases x <;> rfl

theorem mapError_map {ε' : Type} (g : ε → ε') (f : α → β) (x : Except ε α) :
    (x.map f).mapError g = (x.mapError g).map f := by
  cases x <;> rfl

theorem mapError_mapM {ε' : Type} (g : ε → ε') (f : α → Except ε β) (as : List α) :
    (as.mapM f).mapError g = as.mapM fun a => (f a).mapError g := by
  induction as with
  | nil => rfl
  | cons a as ih =>
    rw [List.mapM_cons, List.mapM_cons, ← ih]
    cases f a with
    | error e => rfl
    | ok b => cases as.mapM f <;> rfl

end Except

-- ---------------------------------------------------------------------------
-- Without a reason
-- ---------------------------------------------------------------------------

theorem toOption_map (f : α → β) (x : Except ε α) : (x.map f).toOption = x.toOption.map f := by
  cases x <;> rfl

theorem toOption_eq_some_iff {x : Except ε α} {a : α} : x.toOption = some a ↔ x = .ok a := by
  cases x with
  | error e => exact iff_of_false (Option.some_ne_none a).symm nofun
  | ok b => rw [Except.toOption, Option.some_inj, Except.ok.injEq]

/-- Which failure it is may be forgotten. -/
theorem toOption_mapM (f : α → Except ε β) (as : List α) :
    (as.mapM f).toOption = as.mapM fun a => (f a).toOption := by
  induction as with
  | nil => rfl
  | cons a as ih =>
    rw [List.mapM_cons, List.mapM_cons, ← ih]
    cases f a with
    | error e => rfl
    | ok b => cases as.mapM f <;> rfl

/-- No element fails. -/
theorem isSome_mapM {f : α → Option β} {as : List α} :
    (as.mapM f).isSome = true ↔ ∀ a ∈ as, (f a).isSome = true := by
  induction as with
  | nil => simp
  | cons a as ih =>
    rw [List.mapM_cons, List.forall_mem_cons, ← ih]
    cases f a with
    | none => simp
    | some b => cases as.mapM f <;> simp

/-- What comes of a list comes of one of its elements. -/
theorem exists_of_mem_mapM_some {f : α → Option β} {as : List α} {bs : List β}
    (h : as.mapM f = some bs) {b : β} (hb : b ∈ bs) : ∃ a ∈ as, f a = some b := by
  induction as generalizing bs with
  | nil => cases h; cases hb
  | cons a as ih =>
    rw [List.mapM_cons] at h
    obtain ⟨c, hHead, hRest⟩ := Option.bind_eq_some_iff.1 h
    obtain ⟨cs, hTail, hEq⟩ := Option.bind_eq_some_iff.1 hRest
    cases hEq
    rcases List.mem_cons.1 hb with rfl | hb
    · exact ⟨a, List.mem_cons_self .., hHead⟩
    · obtain ⟨a', ha', hOk⟩ := ih hTail hb
      exact ⟨a', List.mem_cons_of_mem _ ha', hOk⟩

theorem mapM_eq_some {f : α → Option β} {g : α → β} {as : List α}
    (h : ∀ a ∈ as, f a = some (g a)) : as.mapM f = some (as.map g) := by
  induction as with
  | nil => rfl
  | cons a as ih =>
    obtain ⟨ha, hRest⟩ := List.forall_mem_cons.1 h
    rw [List.mapM_cons, ha, ih hRest]
    rfl

/-- Where each element's image has the images of what the element has, so has the whole list. -/
theorem flatten_mapM_map {α' β' : Type} {f : α → Option (List β)} {f' : α' → Option (List β')}
    {φ : α → α'} {ψ : β → β'} {as : List α}
    (h : ∀ a ∈ as, f' (φ a) = (f a).map (List.map ψ)) :
    ((as.map φ).mapM f').map List.flatten =
      ((as.mapM f).map List.flatten).map (List.map ψ) := by
  induction as with
  | nil => rfl
  | cons a as ih =>
    obtain ⟨ha, hRest⟩ := List.forall_mem_cons.1 h
    have hTail := ih hRest
    rw [List.map_cons, List.mapM_cons, List.mapM_cons, ha]
    cases f a with
    | none => rfl
    | some b =>
      cases hs : as.mapM f with
      | none =>
        rw [hs, Option.map_none, Option.map_none, Option.map_eq_none_iff] at hTail
        simp [hTail]
      | some bs =>
        rw [hs, Option.map_some, Option.map_some, Option.map_eq_some_iff] at hTail
        obtain ⟨bs', hbs', hFlat⟩ := hTail
        simp [hbs', hFlat]

-- ---------------------------------------------------------------------------
-- Two lists that are images of one
-- ---------------------------------------------------------------------------

section Common

variable {γ δ₁ δ₂ : Type} {g₁ : γ → δ₁} {g₂ : γ → δ₂} {as : List α}

theorem exists_map_map {f₁ : α → δ₁} {f₂ : α → δ₂} (h : ∀ a ∈ as, ∃ c, f₁ a = g₁ c ∧ f₂ a = g₂ c) :
    ∃ cs : List γ, as.map f₁ = cs.map g₁ ∧ as.map f₂ = cs.map g₂ := by
  induction as with
  | nil => exact ⟨[], rfl, rfl⟩
  | cons a as ih =>
    obtain ⟨⟨c, h₁, h₂⟩, hRest⟩ := List.forall_mem_cons.1 h
    obtain ⟨cs, hcs₁, hcs₂⟩ := ih hRest
    exact ⟨c :: cs, by rw [List.map_cons, List.map_cons, h₁, hcs₁],
      by rw [List.map_cons, List.map_cons, h₂, hcs₂]⟩

theorem exists_mapM_map {f₁ : α → Except ε δ₁} {f₂ : α → Except ε δ₂}
    (h : ∀ a ∈ as, ∃ c : Except ε γ, f₁ a = c.map g₁ ∧ f₂ a = c.map g₂) :
    ∃ cs : Except ε (List γ), as.mapM f₁ = cs.map (List.map g₁) ∧
      as.mapM f₂ = cs.map (List.map g₂) := by
  induction as with
  | nil => exact ⟨.ok [], rfl, rfl⟩
  | cons a as ih =>
    obtain ⟨⟨c, h₁, h₂⟩, hRest⟩ := List.forall_mem_cons.1 h
    obtain ⟨cs, hcs₁, hcs₂⟩ := ih hRest
    rw [List.mapM_cons, List.mapM_cons, h₁, h₂, hcs₁, hcs₂]
    cases c with
    | error e => exact ⟨.error e, rfl, rfl⟩
    | ok c =>
      cases cs with
      | error e => exact ⟨.error e, rfl, rfl⟩
      | ok cs => exact ⟨.ok (c :: cs), rfl, rfl⟩

end Common

end SourceLint
