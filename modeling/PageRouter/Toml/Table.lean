import PageRouter.Data.Value

/-!
# Tables under construction

A TOML text builds its tables piece by piece, and how a table came to be decides what may be added to it.  A
header defines a table once and for all; the tables on the way to it are implied and may still get a header
of their own; a dotted key makes tables that only dotted keys go on to fill.

* `Table.insert?` adds a value under a dotted key.
* `Table.define?` gives the content of a header's table its place.
* `Table.append?` adds a table to an array of tables.
-/

set_option autoImplicit false

namespace PageRouter.Toml

open Data

/-- How a table came to be. -/
inductive Origin where
  /-- By a header of its own, or as the whole document. -/
  | header
  /-- On the way to a header further in. -/
  | implied
  /-- On the way of a dotted key. -/
  | dotted
deriving DecidableEq, Repr

mutual

/-- What stands under a key. -/
inductive Entry where
  | value (v : Value)
  | table (t : Table)
  /-- An array of tables, last first. -/
  | array (tables : List Table)

/-- A table, with its fields in the order in which they came up. -/
inductive Table where
  | mk (origin : Origin) (fields : List (String × Entry))

end

namespace Table

def origin : Table → Origin
  | .mk origin _ => origin

def fields : Table → List (String × Entry)
  | .mk _ fields => fields

/-- A table without fields. -/
def new (origin : Origin) : Table := .mk origin []

/-- The same fields in a table of another origin. -/
def withOrigin (t : Table) (origin : Origin) : Table := .mk origin t.fields

/-- What stands under a key. -/
def find? (t : Table) (key : String) : Option Entry :=
  (t.fields.find? fun f => f.1 == key).map (·.2)

/-- Put an entry among fields: in the place of the old one, or at the end. -/
def setField (key : String) (e : Entry) : List (String × Entry) → List (String × Entry)
  | [] => [(key, e)]
  | f :: fs => if f.1 = key then (key, e) :: fs else f :: setField key e fs

/-- Put an entry under a key. -/
def set (t : Table) (key : String) (e : Entry) : Table := .mk t.origin (setField key e t.fields)

/-- Change the table at the end of a path.  A missing table on the way is made with the given origin.  An
array of tables stands for its last table.  A dotted key does not pass through a table that has a header. -/
def change? (origin : Origin) (f : Table → Option Table) : List String → Table → Option Table
  | [], t => f t
  | key :: path, t =>
    match t.find? key with
    | none => do
      return t.set key (.table (← change? origin f path (new origin)))
    | some (.value _) => none
    | some (.array []) => none
    | some (.array (last :: others)) => do
      return t.set key (.array ((← change? origin f path last) :: others))
    | some (.table u) =>
      if origin = .dotted ∧ u.origin = .header then none
      else do
        return t.set key (.table (← change? origin f path u))

/-- Add a value under a key that is not taken.  Where a dotted key leads must be a table of dotted keys,
and where a plain key stands must not be. -/
def insertField? (isDotted : Bool) (key : String) (v : Value) (t : Table) : Option Table :=
  if (t.origin == .dotted) != isDotted || (t.find? key).isSome then none
  else some (t.set key (.value v))

/-- Add a value under a dotted key. -/
def insert? (t : Table) (key : List String) (v : Value) : Option Table :=
  match key.getLast? with
  | none => none
  | some last =>
    let path := key.dropLast
    change? .dotted (insertField? (!path.isEmpty) last v) path t

/-- The table that a header goes on to fill: the one implied so far, or a new one. -/
def headed? (key : String) (t : Table) : Option Table :=
  match t.find? key with
  | none => some (new .header)
  | some (.table u) => if u.origin = .implied then some (u.withOrigin .header) else none
  | some _ => none

/-- The table at the end of a path. -/
def lookup? : List String → Table → Option Table
  | [], t => some t
  | key :: path, t =>
    match t.find? key with
    | some (.table u) => lookup? path u
    | some (.array (last :: _)) => lookup? path last
    | some _ => none
    | none => lookup? path (new .implied)

/-- The table that a header begins. -/
def open? (t : Table) (key : List String) : Option Table := do
  headed? (← key.getLast?) (← lookup? key.dropLast t)

/-- Put the table of a header in its place. -/
def define? (t : Table) (key : List String) (content : Table) : Option Table := do
  let last ← key.getLast?
  change? .implied (fun u => some (u.set last (.table content))) key.dropLast t

/-- Whether a key is free for a table of an array. -/
def takesElement (key : String) (t : Table) : Bool :=
  match t.find? key with
  | none => true
  | some (.array _) => true
  | some _ => false

/-- Add a table to an array of tables. -/
def append? (t : Table) (key : List String) (content : Table) : Option Table := do
  let last ← key.getLast?
  let add (u : Table) : Option Table :=
    match u.find? last with
    | none => some (u.set last (.array [content]))
    | some (.array tables) => some (u.set last (.array (content :: tables)))
    | some _ => none
  change? .implied add key.dropLast t

/-- Whether an array of tables can be gone on with or begun under a key. -/
def admitsElement (t : Table) (key : List String) : Bool :=
  match key.getLast?, lookup? key.dropLast t with
  | some last, some u => takesElement last u
  | _, _ => false

end Table

mutual

/-- A finished entry as data. -/
def Entry.toValue : Entry → Value
  | .value v => v
  | .table t => t.toValue
  | .array tables => .list (arrayValues tables).reverse

/-- A finished table as data. -/
def Table.toValue : Table → Value
  | .mk _ fields => .table (fieldValues fields)

/-- Finished tables as data. -/
def arrayValues : List Table → List Value
  | [] => []
  | t :: ts => t.toValue :: arrayValues ts

/-- Finished fields as data. -/
def fieldValues : List (String × Entry) → List (String × Value)
  | [] => []
  | (key, e) :: fs => (key, e.toValue) :: fieldValues fs

end

end PageRouter.Toml
