import PageRouter.Data.Value
import PageRouter.Text.Number
import PageRouter.Toml.Reader

/-!
# Numbers of TOML

Integers have sixty-four bits with a sign and may be written in four bases.  A decimal has a fraction, an
exponent or both.  Underscores may stand between digits.  A decimal that is too great to be told from
infinity is refused; one that is too small is not.
-/

set_option autoImplicit false

namespace PageRouter.Toml

open Data

/-- One digit. -/
def digit (radix : Nat) : Reader Nat
  | c :: cs => (Text.digit? radix c).map fun d => (d, cs)
  | [] => none

/-- A digit behind an underscore. -/
def spacedDigit (radix : Nat) : Reader Nat
  | '_' :: cs => digit radix cs
  | _ => none

/-- At least one digit, with underscores between digits. -/
def digits (radix : Nat) : Reader (List Nat) := fun cs => do
  let (d, rest) ← digit radix cs
  let (ds, rest) := repeated (either (digit radix) (spacedDigit radix)) rest
  return (d :: ds, rest)

/-- Digits without a leading zero. -/
def plainDigits : Reader (List Nat) := fun cs =>
  match cs with
  | '0' :: rest => some ([0], rest)
  | _ => digits 10 cs

/-- Whether a minus sign stands in front. -/
def sign : List Char → Bool × List Char
  | '-' :: cs => (true, cs)
  | '+' :: cs => (false, cs)
  | cs => (false, cs)

/-- An integer, if it fits into sixty-four bits. -/
def bounded (n : Int) : Option Value :=
  if -Int.pow 2 63 ≤ n ∧ n < Int.pow 2 63 then some (.integer n) else none

/-- An integer in a base that its first two characters name. -/
def basedInteger (radix : Nat) : Reader Value := fun cs => do
  let (ds, rest) ← digits radix cs
  return (← bounded (Text.ofDigits radix ds), rest)

/-- An integer. -/
def integer : Reader Value := fun cs =>
  match cs with
  | '0' :: 'x' :: rest => basedInteger 16 rest
  | '0' :: 'o' :: rest => basedInteger 8 rest
  | '0' :: 'b' :: rest => basedInteger 2 rest
  | _ => do
    let (isNegative, rest) := sign cs
    let (ds, rest) ← plainDigits rest
    let n : Int := Text.ofDigits 10 ds
    return (← bounded (if isNegative then -n else n), rest)

/-- The least number that rounds to infinity: half a step above the greatest binary number of
fifty-three digits and an exponent of ten bits. -/
def infinityBound : Nat := Nat.pow 2 1024 - Nat.pow 2 970

/-- Whether a decimal with some digits and a power of ten rounds to infinity.  Its length alone decides
unless it is close to the bound, which has 309 digits. -/
def isInfinite (ds : List Nat) (power : Int) : Bool :=
  let n := Text.ofDigits 10 ds
  let size : Int := (toString n).length + power
  if n = 0 then false
  else if size < 309 then false
  else if 309 < size then true
  else if power < 0 then infinityBound * Nat.pow 10 power.natAbs ≤ n
  else infinityBound ≤ n * Nat.pow 10 power.natAbs

/-- The digits behind a decimal point. -/
def fraction : Reader (List Nat)
  | '.' :: cs => digits 10 cs
  | _ => none

/-- The power of ten behind an `e`. -/
def exponent : Reader Int
  | c :: cs =>
    if c == 'e' || c == 'E' then do
      let (isNegative, rest) := sign cs
      let (ds, rest) ← digits 10 rest
      let n : Int := Text.ofDigits 10 ds
      return (if isNegative then -n else n, rest)
    else none
  | [] => none

/-- A fraction and an exponent, of which one may be missing. -/
def decimalTail : Reader (List Nat × Int) := fun cs =>
  match fraction cs with
  | some (ds, rest) =>
    let (power, rest) := optional exponent rest
    some ((ds, power.getD 0), rest)
  | none => (exponent cs).map fun (power, rest) => (([], power), rest)

/-- What was taken from the front of a text to leave a rest. -/
def taken (cs rest : List Char) : String := String.ofList (cs.take (cs.length - rest.length))

/-- Infinity or not a number, behind a sign. -/
def special : Reader Unit := either (literal "inf") (literal "nan")

/-- A decimal. -/
def decimal : Reader Value := fun cs =>
  let (isNegative, rest) := sign cs
  match special rest with
  | some (_, rest) => some (.decimal (taken cs rest), rest)
  | none => do
    let (front, rest) ← plainDigits rest
    let ((back, power), rest) ← decimalTail rest
    if !isNegative && isInfinite (front ++ back) (power - back.length) then none
    else some (.decimal (taken cs rest), rest)

end PageRouter.Toml
