/-!
# Structured data

The tree that a configuration file or a JSON text stands for.  A table is a list of fields in the order in
which they were written, and no reader depends on that order.  Decimals and moments in time are kept by
their spelling, since nothing computes with them.
-/

set_option autoImplicit false

namespace PageRouter.Data

/-- A tree of data. -/
inductive Value where
  | null
  | bool (b : Bool)
  | integer (n : Int)
  | decimal (spelling : String)
  | moment (spelling : String)
  | text (s : String)
  | list (items : List Value)
  | table (fields : List (String × Value))
deriving Repr, Inhabited, BEq

namespace Value

/-- The value of a key among fields, the first if the key stands there twice. -/
def lookup (fields : List (String × Value)) (key : String) : Option Value :=
  (fields.find? fun f => f.1 == key).map (·.2)

def bool? : Value → Option Bool
  | .bool b => some b
  | _ => none

def text? : Value → Option String
  | .text s => some s
  | _ => none

/-- The number, if it is an integer of sixty-four bits without a sign. -/
def word? : Value → Option UInt64
  | .integer (.ofNat n) => if n < Nat.pow 2 64 then some (.ofNat n) else none
  | _ => none

/-- A value that may be absent, written as null or not at all. -/
def optional? {α : Type} (read : Value → Option α) : Value → Option (Option α)
  | .null => some none
  | v => (read v).map some

/-- Every item of a list, each read in the same way. -/
def list? {α : Type} (read : Value → Option α) : Value → Option (List α)
  | .list items => items.mapM read
  | _ => none

@[simp]
theorem word?_ofNat_toNat (n : UInt64) : word? (.integer (.ofNat n.toNat)) = some n := by
  simp [word?, n.toNat_lt]

end Value

end PageRouter.Data
