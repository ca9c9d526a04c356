/-!
# Patterns

A pattern describes texts. `?` stands for any character, `*` for any text,
`[…]` for one of the characters or ranges inside it and `[!…]` for none of
them. `**`, alone between slashes, stands for any number of directories.

* `Pattern.parse` — the pattern that a text spells, or what is wrong with it;
* `escape` — the pattern that describes only the given text.
-/

namespace SourceLint.Glob

/-- A range of characters, both ends included. -/
structure CharRange where
  first : Char
  last : Char
deriving DecidableEq, Repr

/-- A part of a pattern. -/
inductive Token where
  | char (c : Char)
  | anyChar
  | anyText
  | anyDirectories
  | oneOf (ranges : List CharRange)
  | noneOf (ranges : List CharRange)
deriving DecidableEq, Repr

/-- A pattern by its parts. -/
structure Pattern where
  tokens : List Token
deriving DecidableEq, Repr

-- ---------------------------------------------------------------------------
-- Reading
-- ---------------------------------------------------------------------------

/-- What can be wrong with the text of a pattern. -/
inductive Problem where
  | tooManyStars
  | joinedDirectories
  | unclosedClass
deriving DecidableEq, Repr

/-- A problem in words. -/
def Problem.message : Problem → String
  | .tooManyStars => "wildcards are either regular `*` or recursive `**`"
  | .joinedDirectories => "recursive wildcards must form a single path component"
  | .unclosedClass => "invalid range pattern"

/-- A problem, and the character at which it shows. -/
structure Fault where
  position : Nat
  problem : Problem
deriving DecidableEq, Repr

/-- A fault in words. -/
def Fault.message (f : Fault) : String :=
  "Pattern syntax error near position " ++ toString f.position ++ ": " ++ f.problem.message

/-- The ranges that the inside of a class spells: `a-z` is a range, and any
other character stands for itself. -/
def classRanges : List Char → List CharRange
  | a :: '-' :: z :: cs => ⟨a, z⟩ :: classRanges cs
  | c :: cs => ⟨c, c⟩ :: classRanges cs
  | [] => []

/-- Where the reader of a pattern stands. -/
inductive State where
  /-- Outside a class; `fresh` at the start and behind a slash. -/
  | outside (fresh : Bool)
  /-- Inside the class that was opened at the position, with its characters so
  far, the last one in front. -/
  | inside (opened : Nat) (negated : Bool) (seen : List Char)

/-- The tokens of the rest of a pattern. The first character of a class never
closes it. -/
def parseFrom : (position : Nat) → State → List Char → Except Fault (List Token)
  | _, .outside _, [] => .ok []
  | _, .inside opened _ _, [] => .error ⟨opened, .unclosedClass⟩
  | n, .inside opened negated seen, c :: cs =>
    if c = ']' ∧ seen ≠ [] then
      let ranges := classRanges seen.reverse
      (parseFrom (n + 1) (.outside false) cs).map
        ((if negated then .noneOf ranges else .oneOf ranges) :: ·)
    else parseFrom (n + 1) (.inside opened negated (c :: seen)) cs
  | n, .outside _, '?' :: cs => (parseFrom (n + 1) (.outside false) cs).map (.anyChar :: ·)
  | n, .outside _, '*' :: '*' :: '*' :: _ => .error ⟨n + 2, .tooManyStars⟩
  | n, .outside false, '*' :: '*' :: _ => .error ⟨n - 1, .joinedDirectories⟩
  | n, .outside true, '*' :: '*' :: '/' :: cs =>
    (parseFrom (n + 3) (.outside true) cs).map (.anyDirectories :: ·)
  | _, .outside true, ['*', '*'] => .ok [.anyDirectories]
  | n, .outside true, '*' :: '*' :: _ => .error ⟨n + 2, .joinedDirectories⟩
  | n, .outside _, '*' :: cs => (parseFrom (n + 1) (.outside false) cs).map (.anyText :: ·)
  | n, .outside _, '[' :: '!' :: cs => parseFrom (n + 2) (.inside n true []) cs
  | n, .outside _, '[' :: cs => parseFrom (n + 1) (.inside n false []) cs
  | n, .outside _, c :: cs => (parseFrom (n + 1) (.outside (c = '/')) cs).map (.char c :: ·)

/-- The pattern that the text spells. -/
def Pattern.parse (cs : List Char) : Except Fault Pattern :=
  (parseFrom 0 (.outside true) cs).map Pattern.mk

/-- The spelling of a pattern that describes only the given text. -/
def escape (cs : List Char) : List Char :=
  cs.flatMap fun c =>
    if c = '?' ∨ c = '*' ∨ c = '[' ∨ c = ']' then ['[', c, ']'] else [c]

namespace Pattern

/-- The pattern stands for any number of directories. -/
def isRecursive (p : Pattern) : Bool :=
  .anyDirectories ∈ p.tokens

/-- The character that a token stands for, if it is only one. -/
def charOf? : Token → Option Char
  | .char c => some c
  | _ => none

/-- The one text that the pattern spells out. -/
def literal? (p : Pattern) : Option String :=
  (p.tokens.mapM charOf?).map String.ofList

end Pattern

end SourceLint.Glob
