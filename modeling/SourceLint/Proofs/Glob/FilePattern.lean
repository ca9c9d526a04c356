import SourceLint.Analysis.Discovery
import SourceLint.Proofs.Glob.Escape
import SourceLint.Proofs.Path.Tidy

/-!
# File patterns

The pattern of the files with an extension below a directory is made of the
steps of the directory, of `**` and of the parts of the extension. The
directory is escaped, so it always spells a pattern, whatever characters it
has: whether a file pattern is one depends on the extension alone
(`isPattern_filePattern`).

* `find_eq_badPattern_iff`    — what is searched for at all.
* `parts_filePattern`         — the parts of a file pattern.
* `isPattern_filePattern`     — the extension decides.
* `extensionPattern_of_plain` — an extension without special characters.
-/

namespace SourceLint.Glob

-- ---------------------------------------------------------------------------
-- Texts that spell patterns
-- ---------------------------------------------------------------------------

/-- The text spells a pattern, and so does each of its parts. -/
structure IsPattern (cs : List Char) : Prop where
  whole : (Pattern.parse cs).toOption.isSome = true
  parts : ∀ part ∈ parts cs, (Pattern.parse part).toOption.isSome = true

theorem isPattern_iff {cs : List Char} : IsPattern cs ↔ ∃ ps, patterns cs = .ok ps := by
  rw [patterns]
  constructor
  · rintro ⟨hWhole, hParts⟩
    obtain ⟨whole, hParse⟩ := Option.isSome_iff_exists.1 hWhole
    rw [← isSome_mapM, ← toOption_mapM] at hParts
    obtain ⟨ps, hPs⟩ := Option.isSome_iff_exists.1 hParts
    rw [toOption_eq_some_iff] at hParse hPs
    exact ⟨ps, by rw [hParse, ← hPs]; rfl⟩
  · rintro ⟨ps, hOk⟩
    obtain ⟨whole, hParse, hPs⟩ := exists_of_bind_eq_ok hOk
    refine ⟨by rw [hParse]; rfl, ?_⟩
    rw [← isSome_mapM, ← toOption_mapM, hPs]
    rfl

section Disk

variable {P : Type} {d : Disk P} {cs : List Char}

theorem find_of_patterns {ps : List Pattern} (h : patterns cs = .ok ps) :
    find d cs = d.search cs ps := by
  rw [find, h]

theorem search_ne_badPattern {ps : List Pattern} (fault : Fault) :
    d.search cs ps ≠ .error (.badPattern fault) := by
  rw [Disk.search]
  split <;> simp

/-- A search is refused exactly if the text spells no pattern. -/
theorem find_eq_badPattern_iff :
    (∃ fault, find d cs = .error (.badPattern fault)) ↔ ¬ IsPattern cs := by
  rw [isPattern_iff, find]
  cases patterns cs with
  | error fault => exact iff_of_true ⟨fault, rfl⟩ (by simp)
  | ok ps => exact iff_of_false (fun ⟨fault, h⟩ => search_ne_badPattern fault h) (by simp)

end Disk

-- ---------------------------------------------------------------------------
-- File patterns
-- ---------------------------------------------------------------------------

/-- The text of the pattern of the names with the extension. -/
def extensionText (extension : String) : List Char :=
  "*.".toList ++ extension.toList

variable {dir : Path} {extension : String}

theorem filePattern_eq (dir : Path) (extension : String) :
    filePattern dir extension =
      escape dir.text.toList ++ '/' :: (['*', '*'] ++ '/' :: extensionText extension) := by
  simp [filePattern, extensionText]

/-- Behind the directory and `**` the extension is read as if it stood
alone. -/
theorem isSome_parse_filePattern (dir : Path) (extension : String) :
    (Pattern.parse (filePattern dir extension)).toOption.isSome =
      (Pattern.parse (extensionText extension)).toOption.isSome := by
  have hBehind : ∀ fresh,
      (parseFrom 0 (.outside fresh) ('/' :: (['*', '*'] ++ '/' :: extensionText extension))) =
        (parseFrom 4 (.outside true) (extensionText extension)).map
          fun ts => .char '/' :: .anyDirectories :: ts := by
    intro fresh
    have hSlash : ¬ IsSpecial '/' := by decide
    rw [parseFrom_plain_cons hSlash, decide_eq_true rfl, List.cons_append, List.cons_append,
      List.nil_append, parseFrom]
    cases parseFrom (0 + 1 + 3) (.outside true) (extensionText extension) <;> rfl
  rw [Pattern.parse, Pattern.parse, toOption_map, toOption_map, Option.isSome_map,
    Option.isSome_map, filePattern_eq, toOption_parseFrom_escape 0 0, Option.isSome_map, hBehind,
    toOption_map, Option.isSome_map, toOption_parseFrom 4 0 _ (.outside true)]

theorem withoutEmptyEnd_append (as : List (List Char)) {bs : List (List Char)} (hbs : bs ≠ []) :
    Path.withoutEmptyEnd (as ++ bs) = as ++ Path.withoutEmptyEnd bs := by
  rcases List.eq_nil_or_concat bs with rfl | ⟨bs, b, rfl⟩
  · exact absurd rfl hbs
  · rw [List.concat_eq_append, ← List.append_assoc, Path.withoutEmptyEnd_append_one,
      Path.withoutEmptyEnd_append_one]
    split
    · rfl
    · rw [List.append_assoc]

theorem parts_of_head? {cs : List Char} (h : cs.head? ≠ some '/') :
    parts cs = Path.withoutEmptyEnd (Path.splitSlash cs) := by
  rw [parts, if_neg h]
  rfl

theorem parts_cons_slash (cs : List Char) :
    parts ('/' :: cs) = Path.withoutEmptyEnd (Path.splitSlash cs) := rfl

/-- The parts of a file pattern are the escaped steps of the directory, `**`
and the parts of the extension. -/
theorem parts_filePattern (hDir : dir.text ≠ "") (extension : String) :
    parts (filePattern dir extension) =
      dir.stepNames.map (fun n => escape n.toList) ++
        ['*', '*'] :: parts (extensionText extension) := by
  have hBehind : Path.splitSlash (['*', '*'] ++ '/' :: extensionText extension) =
      ['*', '*'] :: Path.splitSlash (extensionText extension) :=
    Path.splitSlash_append_slash ..
  have hParts : ∀ cs : List Char,
      Path.withoutEmptyEnd (Path.splitSlash
          (escape cs ++ '/' :: (['*', '*'] ++ '/' :: extensionText extension))) =
        (Path.splitSlash cs).map escape ++ ['*', '*'] :: parts (extensionText extension) := by
    intro cs
    rw [Path.splitSlash_append_slash, hBehind, splitSlash_escape,
      withoutEmptyEnd_append _ (List.cons_ne_nil _ _), parts_of_head? (by simp [extensionText])]
    have hNe : Path.splitSlash (extensionText extension) ≠ [] := Path.splitSlash_ne_nil _
    congr 1
    exact withoutEmptyEnd_append [['*', '*']] hNe
  have hNames : ∀ ms : List (List Char), ms = dir.stepNames.map String.toList →
      ms.map escape = dir.stepNames.map fun n => escape n.toList := by
    rintro ms rfl
    exact List.map_map
  rw [filePattern_eq]
  cases hText : dir.text.toList with
  | nil => exact absurd (String.toList_eq_nil_iff.1 hText) hDir
  | cons c cs =>
    by_cases hc : c = '/'
    · subst hc
      have hAbs : dir.isAbsolute = true := Path.isAbsolute_iff.2 ⟨cs, hText⟩
      have hSteps := Path.stepNames_of_isAbsolute hAbs
      rw [Path.steps, hText, Path.splitSlash_cons_slash, List.cons.injEq] at hSteps
      have hEscape : escape ('/' :: cs) = '/' :: escape cs := rfl
      rw [hEscape, List.cons_append, parts_cons_slash, hParts, hNames _ hSteps.2]
    · have hRel : dir.isAbsolute = false := by
        rw [Path.isAbsolute, hText]
        simpa using hc
      have hSteps := Path.stepNames_of_relative hRel
      rw [Path.steps, hText] at hSteps
      rw [parts_of_head?, hParts, hNames _ hSteps]
      rw [escape_cons]
      split <;> simp [hc]

/-- **The extension decides**: the directory always spells a pattern. -/
theorem isPattern_filePattern (hDir : dir.text ≠ "") :
    IsPattern (filePattern dir extension) ↔ IsPattern (extensionText extension) := by
  have hStars : (Pattern.parse ['*', '*']).toOption.isSome = true := rfl
  have hSteps : ∀ part ∈ dir.stepNames.map (fun n => escape n.toList),
      (Pattern.parse part).toOption.isSome = true := by
    intro part hPart
    obtain ⟨n, -, rfl⟩ := List.mem_map.1 hPart
    rw [parse_escape]
    rfl
  constructor
  · rintro ⟨hWhole, hParts⟩
    rw [parts_filePattern hDir, List.forall_mem_append, List.forall_mem_cons] at hParts
    exact ⟨by rwa [← isSome_parse_filePattern dir], hParts.2.2⟩
  · rintro ⟨hWhole, hParts⟩
    refine ⟨by rwa [isSome_parse_filePattern], ?_⟩
    rw [parts_filePattern hDir, List.forall_mem_append, List.forall_mem_cons]
    exact ⟨hSteps, hStars, hParts⟩

-- ---------------------------------------------------------------------------
-- Extensions without a slash
-- ---------------------------------------------------------------------------

/-- The pattern of the names with the extension. -/
def extensionPattern? (extension : String) : Option Pattern :=
  (Pattern.parse (extensionText extension)).toOption

theorem parts_extensionText (h : '/' ∉ extension.toList) :
    parts (extensionText extension) = [extensionText extension] := by
  have hNot : '/' ∉ extensionText extension := by simp [extensionText, h]
  rw [parts_of_head? (by simp [extensionText]), Path.splitSlash_of_not_mem hNot,
    ← List.nil_append [extensionText extension], Path.withoutEmptyEnd_append_one, if_neg]
  simp [extensionText]

theorem isPattern_extensionText (h : '/' ∉ extension.toList) :
    IsPattern (extensionText extension) ↔ (extensionPattern? extension).isSome = true := by
  constructor
  · exact fun hPattern => hPattern.whole
  · intro hSome
    refine ⟨hSome, ?_⟩
    rw [parts_extensionText h, List.forall_mem_singleton]
    exact hSome

/-- Behind a character that is no slash, a text without slashes has no `**`. -/
theorem anyDirectories_not_mem_of_parseFrom (n : Nat) (s : State) (cs : List Char) {ts : List Token}
    (hState : s ≠ .outside true) (hSlash : '/' ∉ cs) (h : parseFrom n s cs = .ok ts) :
    Token.anyDirectories ∉ ts := by
  have hCons : ∀ {x : Except Fault (List Token)} {t : Token} {ts : List Token},
      t ≠ .anyDirectories → (∀ us, x = .ok us → Token.anyDirectories ∉ us) →
      x.map (t :: ·) = .ok ts → Token.anyDirectories ∉ ts := by
    intro x t ts ht hx hMap
    cases x with
    | error fault => cases hMap
    | ok us =>
      cases hMap
      rw [List.mem_cons, not_or]
      exact ⟨Ne.symm ht, hx us rfl⟩
  have hTail : ∀ {c : Char} {cs : List Char}, '/' ∉ c :: cs → '/' ∉ cs := fun h hc =>
    h (List.mem_cons_of_mem _ hc)
  fun_induction parseFrom n s cs generalizing ts
  case case1 => cases h; exact List.not_mem_nil
  case case3 ih =>
    refine hCons ?_ (fun us => ih (by simp) (hTail hSlash)) h
    split <;> simp
  case case4 ih => exact ih (by simp) (hTail hSlash) h
  case case5 ih | case11 ih => exact hCons (by simp) (fun us => ih (by simp) (hTail hSlash)) h
  case case8 | case9 => exact absurd rfl hState
  case case12 ih => exact ih (by simp) (hTail (hTail hSlash)) h
  case case13 ih => exact ih (by simp) (hTail hSlash) h
  case case14 c cs _ _ _ _ _ _ _ _ _ ih =>
    have hFresh : decide (c = '/') = false := decide_eq_false fun hc => hSlash (hc ▸ List.mem_cons_self ..)
    rw [hFresh] at ih h
    exact hCons (by simp) (fun us => ih (by simp) (hTail hSlash)) h
  -- all other texts are faulty
  all_goals cases h

/-- The pattern of an extension begins with any text and a dot. -/
theorem extensionPattern?_eq (extension : String) :
    extensionPattern? extension =
      (parseFrom 2 (.outside false) extension.toList).toOption.map
        fun ts => ⟨.anyText :: .char '.' :: ts⟩ := by
  have hText : extensionText extension = '*' :: '.' :: extension.toList := by
    simp [extensionText]
  have hDot : ¬ IsSpecial '.' := by decide
  have hNext : parseFrom 1 (.outside false) ('.' :: extension.toList) =
      (parseFrom 2 (.outside false) extension.toList).map (.char '.' :: ·) :=
    parseFrom_plain_cons hDot 1 false _
  rw [extensionPattern?, Pattern.parse, hText, parseFrom, hNext]
  · cases parseFrom 2 (.outside false) extension.toList <;> rfl
  all_goals simp

theorem isRecursive_of_extensionPattern? {q : Pattern} (hSlash : '/' ∉ extension.toList)
    (h : extensionPattern? extension = some q) : q.isRecursive = false := by
  rw [extensionPattern?_eq] at h
  cases hRest : parseFrom 2 (.outside false) extension.toList with
  | error fault => rw [hRest] at h; cases h
  | ok ts =>
    rw [hRest] at h
    cases h
    have hNot := anyDirectories_not_mem_of_parseFrom _ _ _ (by simp) hSlash hRest
    rw [Pattern.isRecursive, decide_eq_false_iff_not]
    simpa using hNot

-- ---------------------------------------------------------------------------
-- Plain extensions
-- ---------------------------------------------------------------------------

theorem mem_suffixes {cs ds : List Char} : ds ∈ suffixes cs ↔ ds <:+ cs := by
  induction cs with
  | nil => rw [suffixes, List.mem_singleton, List.suffix_nil]
  | cons c cs ih => rw [suffixes, List.mem_cons, ih, List.suffix_cons_iff]

/-- An extension without special characters is the end of the names. -/
theorem extensionPattern_of_plain (h : ∀ c ∈ extension.toList, ¬ IsSpecial c) :
    ∃ q, extensionPattern? extension = some q ∧
      ∀ name : List Char, q.accepts name = true ↔ '.' :: extension.toList <:+ name := by
  have hRest := toOption_parseFrom_escape 2 0 false extension.toList []
  rw [List.append_nil, escape_of_plain h, parseFrom, Except.toOption, Option.map_some,
    List.append_nil] at hRest
  refine ⟨_, by rw [extensionPattern?_eq, hRest, Option.map_some], ?_⟩
  intro name
  have hTokens : Token.char '.' :: extension.toList.map escapedToken =
      ('.' :: extension.toList).map escapedToken := rfl
  rw [Pattern.accepts_eq_describes, describes, List.any_eq_true, hTokens]
  simp only [mem_suffixes, describes_map_escapedToken]
  constructor
  · rintro ⟨ds, hSuffix, rfl⟩
    exact hSuffix
  · exact fun hSuffix => ⟨_, hSuffix, rfl⟩

end SourceLint.Glob
