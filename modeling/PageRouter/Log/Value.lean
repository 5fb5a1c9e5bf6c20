import PageRouter.Decimal.Shortest
import PageRouter.Regex.Check

/-!
# Values of fields

What a filter asks of the value of a field is written as a truth value, a number, or else a regular
expression.  The first reading that works counts: a number that is too large for a whole number is one
of double width, and a text that stands for nothing else is an expression, or is refused.

Values of one kind are compared as what they stand for, so that there is one zero of double width; those
of different kinds are in the order of their kinds.
-/

set_option autoImplicit false

namespace PageRouter.Log

/-- What a field has to be. -/
inductive Value where
  | flag (b : Bool)
  /-- A number of double width, which is one. -/
  | real (x : Binary64)
  | notANumber
  /-- A whole number of at most sixty-four bits. -/
  | natural (n : Nat)
  /-- A number below zero, of at most sixty-four bits with its sign. -/
  | integer (n : Int)
  /-- A regular expression, as it was written. -/
  | pattern (text : String)
deriving DecidableEq, Repr

namespace Value

/-! ## Reading -/

/-- A text that is one of the two truth values. -/
def flag? : String → Option Value
  | "true" => some (.flag true)
  | "false" => some (.flag false)
  | _ => none

/-- A text that is a whole number, with or without a sign. -/
def whole? (text : String) : Option Value :=
  match text.toList with
  | '-' :: cs => ((Text.number? 10 cs).filter (· ≤ Nat.pow 2 63)).map fun n => .integer (-n)
  | '+' :: cs => natural? cs
  | cs => natural? cs
where
  natural? (cs : List Char) : Option Value :=
    ((Text.number? 10 cs).filter (· < Nat.pow 2 64)).map .natural

/-- A text that is a number of double width. -/
def real? (text : String) : Option Value :=
  (Binary64.ofText? text).map fun x => if x = .notANumber then .notANumber else .real x

/-- The value that a text stands for. -/
def parse (text : String) : Except Regex.Fault Value :=
  match flag? text <|> whole? text <|> real? text with
  | some v => .ok v
  | none => (Regex.parse text).map fun _ => .pattern text

/-! ## Writing -/

/-- A value as a text. -/
def display : Value → String
  | .flag b => if b then "true" else "false"
  | .real x => x.display
  | .notANumber => Binary64.notANumber.display
  | .natural n => toString n
  | .integer n => toString n
  | .pattern text => text

/-! ## Order -/

/-- The place of a kind of values among the others. -/
def rank : Value → Nat
  | .flag _ => 0
  | .real _ => 1
  | .notANumber => 2
  | .natural _ => 3
  | .integer _ => 4
  | .pattern _ => 5

/-- The order of values. -/
def compare : Value → Value → Ordering
  | .flag a, .flag b => Ord.compare a b
  | .real a, .real b => Ord.compare a.units b.units
  | .natural a, .natural b => Ord.compare a b
  | .integer a, .integer b => Ord.compare a b
  | .pattern a, .pattern b => Ord.compare a b
  | a, b => Ord.compare a.rank b.rank

end Value

end PageRouter.Log
