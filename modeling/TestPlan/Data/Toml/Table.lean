import TestPlan.Data.Datum

/-! Tables under construction, which remember how they came to be so that none is made twice. -/

namespace TestPlan.Toml

mutual

/-- What a key of a table stands for. -/
inductive Node where
  | value (datum : Datum)
  | table (table : Table)
  /-- An array of tables, the one that headers extend last. -/
  | tables (items : List Table)

/-- A table with its entries. -/
inductive Table where
  /-- `implicit` until a header names the table, `dotted` when a dotted key made it. -/
  | mk (implicit dotted : Bool) (entries : List (String × Node))

end

namespace Table

/-- A table that a header or a brace opens. -/
def empty : Table := .mk false false []

/-- The entries of the table. -/
def entries : Table → List (String × Node)
  | .mk _ _ entries => entries

/-- Whether no header has named the table. -/
def implicit : Table → Bool
  | .mk implicit _ _ => implicit

/-- Whether a dotted key made the table. -/
def dotted : Table → Bool
  | .mk _ dotted _ => dotted

/-- Replaces the node of a key, or adds it at the end. -/
def put (table : Table) (key : String) (node : Node) : Table :=
  match table with
  | .mk implicit dotted entries =>
    if (entries.lookup key).isSome then
      .mk implicit dotted (entries.map fun entry => if entry.1 == key then (key, node) else entry)
    else .mk implicit dotted (entries ++ [(key, node)])

/-- Changes the table at a path, making the tables on the way that are missing. -/
def descend (dotted : Bool) : List String → (Table → Option Table) → Table → Option Table
  | [], change, table => change table
  | key :: path, change, table => do
    match table.entries.lookup key with
    | none =>
      let made ← descend dotted path change (.mk true dotted [])
      return table.put key (.table made)
    | some (.table child) =>
      -- A dotted key does not reach into a table that a header has named.
      if dotted && !child.implicit then none
      let changed ← descend dotted path change child
      return table.put key (.table changed)
    | some (.tables items) =>
      let last ← items.getLast?
      let changed ← descend dotted path change last
      return table.put key (.tables (items.dropLast ++ [changed]))
    | some (.value _) => none

/-- Splits a path into the keys on the way and the last one. -/
def splitLast (path : List String) : Option (List String × String) :=
  path.getLast?.map (path.dropLast, ·)

/-- Adds a value under a dotted key, relative to the table. -/
def addValue (path : List String) (datum : Datum) (table : Table) : Option Table := do
  let (way, key) ← splitLast path
  table.descend true way fun target =>
    -- A plain key belongs to a table that no dotted key made, and a dotted key to one it made.
    if target.dotted == way.isEmpty || (target.entries.lookup key).isSome then none
    else some (target.put key (.value datum))

/-- Opens the table that a header names. -/
def openTable (path : List String) (table : Table) : Option Table := do
  let (way, key) ← splitLast path
  table.descend false way fun parent =>
    match parent.entries.lookup key with
    | none => some (parent.put key (.table empty))
    | some (.table child) =>
      if child.implicit && !child.dotted then
        some (parent.put key (.table (.mk false false child.entries)))
      else none
    | some _ => none

/-- Opens one more table of the array that a header names. -/
def openItem (path : List String) (table : Table) : Option Table := do
  let (way, key) ← splitLast path
  table.descend false way fun parent =>
    match parent.entries.lookup key with
    | none => some (parent.put key (.tables [empty]))
    | some (.tables items) => some (parent.put key (.tables (items ++ [empty])))
    | some _ => none

end Table

mutual

/-- The data of a node. -/
def Node.toDatum : Node → Datum
  | .value datum => datum
  | .table table => table.toDatum
  | .tables items => .list (tableData items)

/-- The data of a table. -/
def Table.toDatum : Table → Datum
  | .mk _ _ entries => .record (entryData entries)

/-- The data of each table of an array. -/
def tableData : List Table → List Datum
  | [] => []
  | table :: rest => table.toDatum :: tableData rest

/-- The data of each entry of a table. -/
def entryData : List (String × Node) → List (String × Datum)
  | [] => []
  | (key, node) :: rest => (key, node.toDatum) :: entryData rest

end

end TestPlan.Toml
