import HeaderBindings.Toml.Number

/-!
# TOML values

A document is a table.  How a table came about decides what may still be added to it, so every table
remembers its origin while a document is read.
-/

namespace HeaderBindings.Toml

/-- How a table came about. -/
inductive Origin where
  /-- By a header of its own, or as the document. -/
  | header
  /-- On the way to the table of a header. -/
  | implied
  /-- By a dotted key. -/
  | dotted
  /-- Between braces; nothing can be added to it. -/
  | inline
  deriving Repr, DecidableEq

/-- A TOML value. -/
inductive Value where
  | string (text : String)
  | boolean
  | number (value : Number)
  /-- A date, a time of day or both, in their plain form. -/
  | moment (text : String)
  /-- An array; `isOpen` holds for arrays of tables, which headers add to. -/
  | array (isOpen : Bool) (items : List Value)
  | table (origin : Origin) (fields : List (String × Value))
  deriving Repr, BEq

mutual

/-- Whether all numbers in a value are represented. -/
def Value.isRepresented : Value → Bool
  | .number value => value.isRepresented
  | .array _ items => areRepresented items
  | .table _ fields => areRepresentedFields fields
  | _ => true

/-- Whether all numbers in some values are represented. -/
def areRepresented : List Value → Bool
  | [] => true
  | value :: rest => value.isRepresented && areRepresented rest

/-- Whether all numbers in the values of some keys are represented. -/
def areRepresentedFields : List (String × Value) → Bool
  | [] => true
  | (_, value) :: rest => value.isRepresented && areRepresentedFields rest

end

/-- A table. -/
structure Table where
  origin : Origin
  fields : List (String × Value)
  deriving Repr, BEq

namespace Table

/-- The table as a value. -/
def value (table : Table) : Value :=
  .table table.origin table.fields

/-- The value of a key. -/
def field? (table : Table) (key : String) : Option Value :=
  table.fields.lookup key

/-- Gives a key a value, in its place if it has one already. -/
def setField (table : Table) (key : String) (value : Value) : Table :=
  let rec set : List (String × Value) → List (String × Value)
    | [] => [(key, value)]
    | field :: rest => if field.1 = key then (key, value) :: rest else field :: set rest
  { table with fields := set table.fields }

/-- Whether a dotted key may add to a table. -/
def isOpenToKeys (table : Table) : Bool :=
  table.origin == .implied || table.origin == .dotted

/--
Changes the table at a path, and makes the tables on the way that are missing.  On the way along a
dotted key only tables that no header names may be entered; on the way along the name of a header an
array of tables stands for its last table.
-/
def changeAt (isDotted : Bool) (change : Table → Option Table) :
    List String → Table → Option Table
  | [], table => change table
  | key :: path, table =>
    match table.field? key with
    | none => do
      let missing : Table := { origin := if isDotted then .dotted else .implied, fields := [] }
      let child ← changeAt isDotted change path missing
      pure (table.setField key child.value)
    | some (.table origin fields) =>
      let child : Table := { origin, fields }
      if origin == .inline || isDotted && !child.isOpenToKeys then none
      else do
        let child ← changeAt isDotted change path child
        pure (table.setField key child.value)
    | some (.array true items) =>
      match isDotted, items.getLast? with
      | false, some (.table origin fields) => do
        let child ← changeAt isDotted change path { origin, fields }
        pure (table.setField key (.array true (items.dropLast ++ [child.value])))
      | _, _ => none
    | some _ => none

/-- Gives a key a value, once.  A dotted key adds only to tables that dotted keys made. -/
def insert? (path : List String) (key : String) (value : Value) (table : Table) : Option Table :=
  table.changeAt true (fun parent =>
    if (parent.origin == .dotted) == path.isEmpty then none
    else if (parent.field? key).isSome then none
    else some (parent.setField key value)) path

/-- Opens the table of a header, which may have been implied before. -/
def openTable? (path : List String) (key : String) (table : Table) : Option Table :=
  table.changeAt false (fun parent =>
    match parent.field? key with
    | none => some (parent.setField key (.table .header []))
    | some (.table .implied fields) => some (parent.setField key (.table .header fields))
    | some _ => none) path

/-- Adds a table to the array of tables of a header. -/
def appendTable? (path : List String) (key : String) (table : Table) : Option Table :=
  table.changeAt false (fun parent =>
    match parent.field? key with
    | none => some (parent.setField key (.array true [.table .header []]))
    | some (.array true items) =>
      some (parent.setField key (.array true (items ++ [.table .header []])))
    | some _ => none) path

end Table

end HeaderBindings.Toml
