import SourceLint.Distinct
import SourceLint.Sort

/-!
# Knowledge

Which header each symbol needs. If a list of entries names a symbol twice, the
first entry counts and the others are as if they were not there.

* `Knowledge.ofEntries` — the knowledge a list of entries stands for;
* `Knowledge.lookup` — the header of a symbol;
* `Knowledge.sorted`, `Knowledge.headers`, `Knowledge.symbolsFor` — the same
  facts listed by symbol, by header, and by symbol for one header.
-/

namespace SourceLint

/-- The symbols with their headers, each symbol once. -/
structure Knowledge where
  entries : List (String × String)

namespace Knowledge

/-- The knowledge of a list of entries: the first entry of a symbol counts. -/
def ofEntries (entries : List (String × String)) : Knowledge :=
  ⟨distinctOn Prod.fst entries⟩

/-- The header that declares the symbol. -/
def lookup (k : Knowledge) (symbol : String) : Option String :=
  k.entries.lookup symbol

/-- The number of symbols. -/
def size (k : Knowledge) : Nat :=
  k.entries.length

/-- There is no symbol. -/
def isEmpty (k : Knowledge) : Bool :=
  k.entries.isEmpty

/-- The symbols with their headers, in the order of the symbols. -/
def sorted (k : Knowledge) : List (String × String) :=
  sortBy (fun a b => a.1 ≤ b.1) k.entries

/-- The headers, in order and each once. -/
def headers (k : Knowledge) : List String :=
  sortBy (· ≤ ·) (distinctOn id (k.entries.map Prod.snd))

/-- The symbols that the header declares, in order. -/
def symbolsFor (k : Knowledge) (header : String) : List String :=
  (k.sorted.filter (·.2 = header)).map Prod.fst

end Knowledge

end SourceLint
