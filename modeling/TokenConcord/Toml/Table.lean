import TokenConcord.Toml.Value

/-!
# TOML tables under construction

A document builds its tables piece by piece, and what a later piece may add depends on how a
table came about: a header opens a table once, a dotted key extends only tables that no
header has opened, and a table written as a value is complete.
-/

namespace TokenConcord.Toml

/-- How a table came about. -/
inductive Origin where
  /-- By the header of a table inside it. -/
  | implied
  /-- By a dotted key. -/
  | dotted
  /-- By a header of its own. -/
  | opened
  deriving DecidableEq, Repr

mutual

/-- What a key of a table stands for. -/
inductive Item where
  | value (value : Value)
  | table (table : Table)
  /-- An array of tables, the last one first. -/
  | tables (last : Table) (earlier : List Table)

/-- A table under construction. -/
inductive Table where
  | mk (origin : Origin) (entries : List (Text × Item))

end

namespace Table

/-- How the table came about. -/
def origin : Table → Origin
  | mk origin _ => origin

/-- The entries of the table in the order in which they were added. -/
def entries : Table → List (Text × Item)
  | mk _ entries => entries

/-- A table without entries. -/
def empty (origin : Origin) : Table := mk origin []

/-- The item of a key. -/
def get? (table : Table) (key : Text) : Option Item := table.entries.lookup key

/-- Make a key stand for an item. -/
def put (table : Table) (key : Text) (item : Item) : Table :=
  if (table.get? key).isSome then
    mk table.origin (table.entries.map fun entry => if entry.1 = key then (key, item) else entry)
  else mk table.origin (table.entries ++ [(key, item)])

/-- Change the table at a path, where tables that are missing are made, and of an array the
last table counts. A dotted key does not lead into a table that a header opened. -/
def change (dotted : Bool) (edit : Table → Option Table) : List Text → Table → Option Table
  | [], table => edit table
  | key :: path, table =>
      match table.get? key with
      | none => do
          let inner ← change dotted edit path (empty (if dotted then .dotted else .implied))
          return table.put key (.table inner)
      | some (.value _) => none
      | some (.tables last earlier) => do
          return table.put key (.tables (← change dotted edit path last) earlier)
      | some (.table inner) =>
          if dotted && inner.origin = .opened then none
          else do return table.put key (.table (← change dotted edit path inner))

/-- Add a value under a key, which may be dotted and must be new. -/
def addValue (table : Table) (key : List Text × Text) (value : Value) : Option Table :=
  change true (fun inner =>
    if (inner.origin = .dotted) = (key.1 ≠ []) ∧ (inner.get? key.2).isNone then
      some (inner.put key.2 (.value value))
    else none) key.1 table

/-- Open a table by its header. It may have been implied before. -/
def openTable (table : Table) (key : List Text × Text) : Option Table :=
  change false (fun outer =>
    match outer.get? key.2 with
    | none => some (outer.put key.2 (.table (empty .opened)))
    | some (.table inner) =>
        if inner.origin = .implied then
          some (outer.put key.2 (.table (mk .opened inner.entries)))
        else none
    | _ => none) key.1 table

/-- Open one more table of an array by its header. -/
def openElement (table : Table) (key : List Text × Text) : Option Table :=
  change false (fun outer =>
    match outer.get? key.2 with
    | none => some (outer.put key.2 (.tables (empty .opened) []))
    | some (.tables last earlier) =>
        some (outer.put key.2 (.tables (empty .opened) (last :: earlier)))
    | _ => none) key.1 table

end Table

/-! ## Finished tables -/

mutual

/-- The value of an item. -/
def Item.toValue : Item → Value
  | .value value => value
  | .table table => table.toValue
  | .tables last earlier => .array (last.toValue :: Table.toValues earlier).reverse

/-- The value of a table. -/
def Table.toValue : Table → Value
  | .mk _ entries => .table (Item.toEntries entries)

/-- The values of tables. -/
def Table.toValues : List Table → List Value
  | [] => []
  | table :: tables => table.toValue :: Table.toValues tables

/-- Entries with their values. -/
def Item.toEntries : List (Text × Item) → List (Text × Value)
  | [] => []
  | (key, item) :: entries => (key, item.toValue) :: Item.toEntries entries

end

end TokenConcord.Toml
