import SourceLint.Extract.Include
import SourceLint.Extract.Usage
import SourceLint.Knowledge.Basic
import SourceLint.Rule.Basic

/-!
# System includes

A file includes exactly the headers that its symbols need: none is missing,
none is in excess, and every symbol is known.

* `IncludeProblem` — what can be wrong, and `IncludeProblem.message`;
* `reconcile` — all that is wrong with a text;
* `Rule.checkSystemIncludes` — the rule.
-/

namespace SourceLint

/-- What can be wrong between the symbols and the includes of a text. -/
inductive IncludeProblem where
  /-- No header is known for the symbol. -/
  | unknown (symbol : String) (line : Nat)
  /-- The symbol's header is not included. -/
  | missing (symbol header : String) (line : Nat)
  /-- No symbol of the text needs the header. -/
  | excess (header : String) (line : Nat)
deriving DecidableEq, Repr

namespace IncludeProblem

/-- The line of a problem: where the symbol is first used or the header first
included. -/
def line : IncludeProblem → Nat
  | .unknown _ line => line
  | .missing _ _ line => line
  | .excess _ line => line

/-- A problem in words. -/
def message : IncludeProblem → String
  | .unknown symbol _ => "No include mapping for " ++ symbol
  | .missing symbol header _ => symbol ++ " requires include " ++ header
  | .excess header _ => header ++ " included but not required"

end IncludeProblem

/-- What is wrong with one use, given the headers that are included. -/
def useProblem? (knowledge : Knowledge) (included : List String) (use : Mention) :
    Option IncludeProblem :=
  match knowledge.lookup use.name with
  | none => some (.unknown use.name use.line)
  | some header =>
    if header ∈ included then none else some (.missing use.name header use.line)

/-- What is wrong with one include, given the headers that are needed. -/
def includeProblem? (needed : List String) (inclusion : Mention) : Option IncludeProblem :=
  if inclusion.name ∈ needed then none else some (.excess inclusion.name inclusion.line)

/-- The headers that the used symbols need. -/
def neededHeaders (knowledge : Knowledge) (uses : List Mention) : List String :=
  uses.filterMap fun use => knowledge.lookup use.name

/-- All that is wrong with a text: first its uses, then its includes, each in
the order of the text. -/
def reconcile (knowledge : Knowledge) (text : String) : List IncludeProblem :=
  (usages text).filterMap (useProblem? knowledge ((includes text).map (·.name)))
    ++ (includes text).filterMap (includeProblem? (neededHeaders knowledge (usages text)))

/-- A text passes if nothing is wrong with it. -/
def reconcileOutcome (problems : List IncludeProblem) : Outcome :=
  if problems.isEmpty then .success else .fail

/-- The rule on system includes. -/
def Rule.checkSystemIncludes (knowledge : Knowledge) (severity : Severity) (file : SourceFile) :
    List Violation :=
  (reconcile knowledge file.text).map fun p =>
    Rule.systemIncludes.violation severity file p.line p.message

end SourceLint
