import SourceLint.Toml.Reader

/-!
# Documents

A document is a list of statements: a header opens a table, and a pair puts a
value under a key of the table that is open.

* `Statement`, `readStatements` — the statements of a text;
* `parse` — the table that a text describes.
-/

namespace SourceLint.Toml

/-- A header or a pair. -/
inductive Statement where
  | openTable (path : List String)
  | openElement (path : List String)
  | pair (path : List String) (v : Value)

/-- The text behind the end of the line, in front of which only spaces and a
comment may stand. -/
def readLineEnd (cs : List Char) : Except Problem (List Char) :=
  let rest := match skipSpaces cs with
    | '#' :: comment => comment.dropWhile isTextChar
    | cs => cs
  match rest, takeBreak? rest with
  | [], _ => .ok []
  | _, some rest => .ok rest
  | _, none => .error (.expected "the end of the line")

/-- A header behind its opening brackets, with the closing ones given. -/
def readHeader (close cs : List Char) : Except Problem (List String × List Char) := do
  let (path, rest) ← readKeyPath cs
  if rest.take close.length = close then
    .ok (path, ← readLineEnd (rest.drop close.length))
  else .error (.expected "a closing bracket")

/-- One statement with the end of its line. -/
def readStatement : List Char → Except Problem (Statement × List Char)
  | '[' :: '[' :: cs => (readHeader [']', ']'] cs).map fun (path, rest) => (.openElement path, rest)
  | '[' :: cs => (readHeader [']'] cs).map fun (path, rest) => (.openTable path, rest)
  | cs => do
    let ((path, v), rest) ← readPair readValue cs
    .ok (.pair path v, ← readLineEnd rest)

/-- The statements of a text. Every round consumes text, so the length of the
text is fuel enough. -/
def readStatementsFrom : (fuel : Nat) → List Char → Except Problem (List Statement)
  | 0, _ => .ok []
  | fuel + 1, cs => match skipSpaces cs with
    | [] => .ok []
    | c :: cs =>
      if c = '\n' ∨ c = '\r' ∨ c = '#' then do
        readStatementsFrom fuel (← readLineEnd (c :: cs))
      else do
        let (s, rest) ← readStatement (c :: cs)
        .ok (s :: (← readStatementsFrom fuel rest))

/-- The statements of a text. A byte order mark in front is skipped. -/
def readStatements (cs : List Char) : Except Problem (List Statement) :=
  let cs := if cs.head? = some '\uFEFF' then cs.tail else cs
  readStatementsFrom (cs.length + 1) cs

/-- The document so far: its tables, and the path of the one that is open. -/
structure Draft where
  top : Table
  current : List String

/-- The document with one more statement. -/
def Draft.add (d : Draft) : Statement → Except Problem Draft
  | .openTable path => do
    let (parents, key) := splitKeyPath path
    .ok ⟨← d.top.descend .implied (Table.openTable key) parents, path⟩
  | .openElement path => do
    let (parents, key) := splitKeyPath path
    .ok ⟨← d.top.descend .implied (Table.openElement key) parents, path⟩
  | .pair path v => do
    let (path, key) := splitKeyPath path
    .ok { d with top := ← d.top.descend .implied (Table.insertAt path key v) d.current }

/-- The table that the text describes. -/
def parse (text : String) : Except Problem Value := do
  let statements ← readStatements text.toList
  let draft ← statements.foldlM Draft.add ⟨Table.empty .header, []⟩
  .ok draft.top.toValue

end SourceLint.Toml
