import SourceLint.Glob.Pattern

/-!
# What a pattern describes

`describes` tries every way to divide a text among the tokens of a pattern.
There may be very many of them, so a text is matched by a table instead: for
the tokens from the last to the first, one answer for each suffix of the text,
every answer made of answers for shorter suffixes.

* `describes` — the tokens describe a whole text;
* `answers` — the table; `answers_eq` says that it holds what `describes` says
  of each suffix;
* `Pattern.accepts` — the pattern describes a whole text.
-/

namespace SourceLint.Glob

-- ---------------------------------------------------------------------------
-- Every way to divide a text
-- ---------------------------------------------------------------------------

/-- The character lies in one of the ranges. -/
def inRanges (ranges : List CharRange) (c : Char) : Bool :=
  ranges.any fun r => r.first ≤ c && c ≤ r.last

/-- The token stands for this one character. -/
def Token.acceptsChar : Token → Char → Bool
  | .char d, c => c == d
  | .anyChar, _ => true
  | .oneOf ranges, c => inRanges ranges c
  | .noneOf ranges, c => !inRanges ranges c
  | .anyText, _ => false
  | .anyDirectories, _ => false

/-- The text, and what is left of it after each of its characters. -/
def suffixes : List Char → List (List Char)
  | [] => [[]]
  | c :: cs => (c :: cs) :: suffixes cs

/-- What is left of the text after each of its slashes. -/
def afterSlashes : List Char → List (List Char)
  | [] => []
  | c :: cs => if c = '/' then cs :: afterSlashes cs else afterSlashes cs

/-- The tokens describe the whole text. Any text may be empty; any directories
are nothing, all up to some slash, or all that is left. -/
def describes : List Token → List Char → Bool
  | [], cs => cs.isEmpty
  | .anyText :: ts, cs => (suffixes cs).any (describes ts)
  | .anyDirectories :: ts, cs =>
    describes ts cs || (afterSlashes cs).any (describes ts) || describes ts []
  | t :: ts, c :: cs => t.acceptsChar c && describes ts cs
  | _ :: _, [] => false

-- ---------------------------------------------------------------------------
-- The table
-- ---------------------------------------------------------------------------

/-- For each suffix: the token takes its first character, and the answer for
the rest is yes. -/
def charAnswers (t : Token) : List Char → List Bool → List Bool
  | c :: cs, _ :: bs => (t.acceptsChar c && bs.headD false) :: charAnswers t cs bs
  | _, _ => [false]

/-- For each suffix: the answer for it or for a shorter one is yes. -/
def textAnswers : List Bool → List Bool
  | [] => []
  | b :: bs =>
    let rest := textAnswers bs
    (b || rest.headD false) :: rest

/-- For each suffix: the answer behind one of its slashes or at its end is
yes. -/
def slashAnswers : List Char → List Bool → List Bool
  | c :: cs, _ :: bs =>
    let rest := slashAnswers cs bs
    ((c == '/' && bs.headD false) || rest.headD false) :: rest
  | _, bs => bs

/-- The answers for a token in front of tokens with the given answers. -/
def Token.answers (t : Token) (cs : List Char) (bs : List Bool) : List Bool :=
  match t with
  | .anyText => textAnswers bs
  | .anyDirectories => List.zipWith or bs (slashAnswers cs bs)
  | t => charAnswers t cs bs

/-- For each suffix of the text, the longest first: the tokens describe it. -/
def answers : List Token → List Char → List Bool
  | [], cs => (suffixes cs).map List.isEmpty
  | t :: ts, cs => t.answers cs (answers ts cs)

/-- The pattern describes the whole text. Its `*`, `?` and classes also stand
for slashes. -/
def Pattern.accepts (p : Pattern) (cs : List Char) : Bool :=
  (answers p.tokens cs).headD false

-- ---------------------------------------------------------------------------
-- The table holds what it says
-- ---------------------------------------------------------------------------

/-- The first suffix is the text itself. -/
@[simp] theorem head?_suffixes (cs : List Char) : (suffixes cs).head? = some cs := by
  cases cs <;> rfl

theorem charAnswers_eq (t : Token) (f : List Char → Bool) (cs : List Char) :
    charAnswers t cs ((suffixes cs).map f)
      = (suffixes cs).map fun
        | [] => false
        | c :: cs => t.acceptsChar c && f cs := by
  induction cs with
  | nil => rfl
  | cons c cs ih => simp [suffixes, charAnswers, ih]

theorem textAnswers_eq (f : List Char → Bool) (cs : List Char) :
    textAnswers ((suffixes cs).map f) = (suffixes cs).map fun s => (suffixes s).any f := by
  induction cs with
  | nil => simp [suffixes, textAnswers]
  | cons c cs ih => simp [suffixes, textAnswers, ih]

theorem slashAnswers_eq (f : List Char → Bool) (cs : List Char) :
    slashAnswers cs ((suffixes cs).map f)
      = (suffixes cs).map fun s => (afterSlashes s).any f || f [] := by
  induction cs with
  | nil => simp [suffixes, slashAnswers, afterSlashes]
  | cons c cs ih =>
    by_cases h : c = '/' <;> simp [suffixes, slashAnswers, afterSlashes, ih, h, Bool.or_assoc]

/-- The table has the answer of `describes` for each suffix. -/
theorem answers_eq (ts : List Token) (cs : List Char) :
    answers ts cs = (suffixes cs).map (describes ts) := by
  induction ts with
  | nil => simp [answers, describes]
  | cons t ts ih =>
    rw [answers, ih]
    cases t with
    | anyText => simp [Token.answers, textAnswers_eq, describes]
    | anyDirectories =>
      simp [Token.answers, slashAnswers_eq, describes, List.zipWith_map, Bool.or_assoc]
    | _ =>
      simp only [Token.answers, charAnswers_eq]
      congr 1
      funext s
      cases s <;> rfl

/-- A pattern accepts what its tokens describe. -/
theorem Pattern.accepts_eq_describes (p : Pattern) (cs : List Char) :
    p.accepts cs = describes p.tokens cs := by
  simp [Pattern.accepts, answers_eq]

end SourceLint.Glob
