import SourceLint.Toml.Quoted
import SourceLint.Toml.Table

/-!
# Keys and values

Readers for what may stand at one place of a document. A reader takes the text
from there on and gives back what it read and the text behind it.

* `readKeyPath` — a key, dotted or not;
* `readValue` — a value, which may nest.
-/

namespace SourceLint.Toml

/-- Keys have at most this many parts, and values nest at most so deep. -/
def maxNesting : Nat :=
  79

/-- The text behind spaces and tabs. -/
def skipSpaces (cs : List Char) : List Char :=
  cs.dropWhile isSpace

/-- The text behind spaces, tabs, line breaks and comments; `inComment` says
that a comment is going on. -/
def skipFillerFrom : (inComment : Bool) → List Char → List Char
  | _, [] => []
  | inComment, c :: cs =>
    if c = '\n' ∨ (c = '\r' ∧ cs.head? = some '\n') then skipFillerFrom false cs
    else if inComment then if isTextChar c then skipFillerFrom true cs else c :: cs
    else if isSpace c then skipFillerFrom false cs
    else if c = '#' then skipFillerFrom true cs
    else c :: cs

/-- The text behind spaces, tabs, line breaks and comments. -/
def skipFiller (cs : List Char) : List Char :=
  skipFillerFrom false cs

-- ---------------------------------------------------------------------------
-- Keys
-- ---------------------------------------------------------------------------

/-- A character of a key without quotes. -/
def isBareKeyChar (c : Char) : Bool :=
  c.isAlphanum || c == '-' || c == '_'

/-- One part of a key: quoted, or a run of plain characters. -/
def readKey : List Char → Except Problem (String × List Char)
  | '"' :: cs => (readBasic cs).map fun (s, rest) => (String.ofList s, rest)
  | '\'' :: cs => (readLiteral cs).map fun (s, rest) => (String.ofList s, rest)
  | cs => match cs.takeWhile isBareKeyChar with
    | [] => .error (.expected "a key")
    | key => .ok (String.ofList key, cs.dropWhile isBareKeyChar)

/-- A key of at most `parts` parts with dots between them. -/
def readKeyPathFrom : (parts : Nat) → List Char → Except Problem (List String × List Char)
  | 0, _ => .error .tooDeep
  | parts + 1, cs => do
    let (key, rest) ← readKey (skipSpaces cs)
    match skipSpaces rest with
    | '.' :: rest =>
      let (path, rest) ← readKeyPathFrom parts rest
      .ok (key :: path, rest)
    | rest => .ok ([key], rest)

/-- A key and the spaces around it. -/
def readKeyPath (cs : List Char) : Except Problem (List String × List Char) :=
  readKeyPathFrom maxNesting cs

-- ---------------------------------------------------------------------------
-- Values without structure
-- ---------------------------------------------------------------------------

/-- A character of a value that is neither quoted nor nested. -/
def isScalarChar (c : Char) : Bool :=
  !(isSpace c || c == '\n' || c == '\r' || c == '#' || c == ',' || c == ']' || c == '}')

/-- The value that the whole token spells. -/
def readToken? (token : List Char) : Option Value :=
  if token = "true".toList then some (.boolean true)
  else if token = "false".toList then some (.boolean false)
  else match DateTime.read? token, readInteger? token, readFloat? token with
    | some d, _, _ => some (.dateTime d)
    | _, some n, _ => some (.integer n)
    | _, _, some x => some (.float x)
    | _, _, _ => none

/-- The token at the beginning of the text. A date goes on behind one space if
a digit follows. -/
def splitToken (cs : List Char) : List Char × List Char :=
  let token := cs.takeWhile isScalarChar
  let rest := cs.dropWhile isScalarChar
  match DateTime.read? token, rest with
  | some (.date _), ' ' :: d :: more =>
    if d.isDigit then
      (token ++ ' ' :: (d :: more).takeWhile isScalarChar, (d :: more).dropWhile isScalarChar)
    else (token, rest)
  | _, _ => (token, rest)

/-- A number, a truth value, a date or a time. -/
def readScalar (cs : List Char) : Except Problem (Value × List Char) :=
  let (token, rest) := splitToken cs
  match readToken? token with
  | some v => .ok (v, rest)
  | none =>
    if token = [] then .error (.expected "a value")
    else .error (.badScalar (String.ofList token))

-- ---------------------------------------------------------------------------
-- Values with structure
-- ---------------------------------------------------------------------------

/-- The elements of an array and its closing bracket, each element read by
`element`. Every round consumes text, so the length of the text is fuel
enough. -/
def readElements (element : List Char → Except Problem (Value × List Char)) :
    (fuel : Nat) → List Char → Except Problem (List Value × List Char)
  | 0, _ => .error (.expected "a closing bracket")
  | fuel + 1, cs => match skipFiller cs with
    | ']' :: rest => .ok ([], rest)
    | cs => do
      let (v, rest) ← element cs
      match skipFiller rest with
      | ',' :: rest =>
        let (vs, rest) ← readElements element fuel rest
        .ok (v :: vs, rest)
      | ']' :: rest => .ok ([v], rest)
      | _ => .error (.expected "a comma or a closing bracket")

/-- The key with its value, and the spaces around them. -/
def readPair (value : List Char → Except Problem (Value × List Char)) (cs : List Char) :
    Except Problem ((List String × Value) × List Char) := do
  let (path, rest) ← readKeyPath cs
  match rest with
  | '=' :: rest =>
    let (v, rest) ← value (skipSpaces rest)
    .ok ((path, v), skipSpaces rest)
  | _ => .error (.expected "an equals sign")

/-- The pairs of an inline table and its closing brace, of which there is at
least one. Every round consumes text, so the length of the text is fuel
enough. -/
def readPairs (value : List Char → Except Problem (Value × List Char)) :
    (fuel : Nat) → List Char → Except Problem (List (List String × Value) × List Char)
  | 0, _ => .error (.expected "a closing brace")
  | fuel + 1, cs => do
    let (pair, rest) ← readPair value cs
    match rest with
    | ',' :: rest =>
      let (pairs, rest) ← readPairs value fuel rest
      .ok (pair :: pairs, rest)
    | '}' :: rest => .ok ([pair], rest)
    | _ => .error (.expected "a comma or a closing brace")

/-- The last part of a key and the parts in front of it. -/
def splitKeyPath (path : List String) : List String × String :=
  (path.dropLast, path.getLast?.getD "")

/-- The table that the pairs make up. -/
def tableOfPairs (pairs : List (List String × Value)) : Except Problem Table :=
  pairs.foldlM (fun t (path, v) =>
    let (path, key) := splitKeyPath path
    t.insertAt path key v) (Table.empty .header)

/-- A value in which arrays and inline tables nest at most `depth` deep. -/
def readValueWithin : (depth : Nat) → List Char → Except Problem (Value × List Char)
  | depth, cs => match cs with
    | '"' :: '"' :: '"' :: cs =>
      (readBasicLines cs).map fun (s, rest) => (.string (String.ofList s), rest)
    | '\'' :: '\'' :: '\'' :: cs =>
      (readLiteralLines cs).map fun (s, rest) => (.string (String.ofList s), rest)
    | '"' :: cs => (readBasic cs).map fun (s, rest) => (.string (String.ofList s), rest)
    | '\'' :: cs => (readLiteral cs).map fun (s, rest) => (.string (String.ofList s), rest)
    | '[' :: cs => match depth with
      | 0 => .error .tooDeep
      | depth + 1 =>
        (readElements (readValueWithin depth) (cs.length + 1) cs).map fun (vs, rest) =>
          (.array vs, rest)
    | '{' :: cs => match depth with
      | 0 => .error .tooDeep
      | depth + 1 => match skipSpaces cs with
        | '}' :: rest => .ok (.table [], rest)
        | cs => do
          let (pairs, rest) ← readPairs (readValueWithin depth) (cs.length + 1) cs
          let table ← tableOfPairs pairs
          .ok (table.toValue, rest)
    | cs => readScalar cs

/-- A value. -/
def readValue (cs : List Char) : Except Problem (Value × List Char) :=
  readValueWithin maxNesting cs

end SourceLint.Toml
