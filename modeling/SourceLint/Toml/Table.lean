import SourceLint.Toml.Value

/-!
# Tables under construction

A document builds its tables piece by piece. A table may be opened by its own
header, be implied by the header of a table below it, or come from dotted
keys, and how it came about decides who may still add to it:

* a header opens a table once, also one that was only implied before;
* dotted keys add to tables that came from dotted keys;
* below a header any table may get further tables;
* a value written in one piece is closed.

`Table.descend` walks a path of keys and creates the tables that are not
there; `Table.insertAt`, `Table.openTable` and `Table.openElement` are what a
statement of a document does at its end.
-/

namespace SourceLint.Toml

/-- How a table came about. -/
inductive Origin where
  | header
  | implied
  | dotted
deriving DecidableEq, Repr

/-- What a key of a table under construction stands for: a closed value, a
table, or a list of tables that headers add to. -/
inductive Item where
  | value (v : Value)
  | table (origin : Origin) (entries : List (String × Item))
  | tables (elements : List (List (String × Item)))

/-- A table under construction. -/
structure Table where
  origin : Origin
  entries : List (String × Item)

-- ---------------------------------------------------------------------------
-- The finished value
-- ---------------------------------------------------------------------------

mutual

/-- The value of an item. -/
def Item.toValue : Item → Value
  | .value v => v
  | .table _ entries => .table (valuesOf entries)
  | .tables elements => .array (tableValues elements)

/-- The values of the items of a table. -/
def valuesOf : List (String × Item) → List (String × Value)
  | [] => []
  | (key, item) :: rest => (key, item.toValue) :: valuesOf rest

/-- The values of a list of tables. -/
def tableValues : List (List (String × Item)) → List Value
  | [] => []
  | entries :: rest => .table (valuesOf entries) :: tableValues rest

end

-- ---------------------------------------------------------------------------
-- Changes
-- ---------------------------------------------------------------------------

/-- The entries with the key set to the item. -/
def setEntry (key : String) (item : Item) : List (String × Item) → List (String × Item)
  | [] => [(key, item)]
  | (k, i) :: rest => if k = key then (k, item) :: rest else (k, i) :: setEntry key item rest

namespace Table

/-- A table without entries. -/
def empty (origin : Origin) : Table :=
  ⟨origin, []⟩

/-- What the key stands for. -/
def get? (t : Table) (key : String) : Option Item :=
  t.entries.lookup key

/-- The table with the key set to the item. -/
def set (t : Table) (key : String) (item : Item) : Table :=
  { t with entries := setEntry key item t.entries }

/-- The table with the key set to the item, behind all other keys. -/
def setLast (t : Table) (key : String) (item : Item) : Table :=
  { t with entries := t.entries.filter (·.1 ≠ key) ++ [(key, item)] }

/-- The finished value. -/
def toValue (t : Table) : Value :=
  .table (valuesOf t.entries)

/-- Changes the table at the end of the path of keys. Tables that are not
there are created as `fresh`; a list of tables stands for its last one. Dotted
keys do not enter a table that has its own header. -/
def descend (fresh : Origin) (change : Table → Except Problem Table) :
    List String → Table → Except Problem Table
  | [], t => change t
  | key :: path, t => match t.get? key with
    | none => do
      let child ← descend fresh change path (empty fresh)
      .ok (t.set key (.table child.origin child.entries))
    | some (.value _) => .error (.notATable key)
    | some (.table origin entries) =>
      if fresh = .dotted ∧ origin = .header then .error (.duplicateKey key)
      else do
        let child ← descend fresh change path ⟨origin, entries⟩
        .ok (t.set key (.table child.origin child.entries))
    | some (.tables elements) => do
      let child ← descend fresh change path ⟨.header, elements.getLast?.getD []⟩
      .ok (t.set key (.tables (elements.dropLast ++ [child.entries])))

/-- A new key with its value. -/
def insert (key : String) (v : Value) (t : Table) : Except Problem Table :=
  match t.get? key with
  | none => .ok (t.set key (.value v))
  | some _ => .error (.duplicateKey key)

/-- A new dotted key with its value. At the end of a dotted path the table
must itself come from dotted keys. -/
def insertAt (path : List String) (key : String) (v : Value) (t : Table) :
    Except Problem Table :=
  let add : Table → Except Problem Table := fun t =>
    if path ≠ [] ∧ t.origin ≠ .dotted then .error (.duplicateKey key) else t.insert key v
  descend .dotted add path t

/-- The header of a table: the key is new or its table only implied. A table
stands where its header stands. -/
def openTable (key : String) (t : Table) : Except Problem Table :=
  match t.get? key with
  | none => .ok (t.setLast key (.table .header []))
  | some (.table .implied entries) => .ok (t.setLast key (.table .header entries))
  | some _ => .error (.duplicateKey key)

/-- The header of one more table of a list: the key is new or has such a
list. -/
def openElement (key : String) (t : Table) : Except Problem Table :=
  match t.get? key with
  | none => .ok (t.set key (.tables [[]]))
  | some (.tables elements) => .ok (t.set key (.tables (elements ++ [[]])))
  | some _ => .error (.duplicateKey key)

end Table

end SourceLint.Toml
