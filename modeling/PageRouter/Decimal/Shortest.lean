import PageRouter.Decimal.Binary64

/-!
# Shortest decimals

A number of double width is written with the fewest digits that read back as the same number, and of all
such texts as the one nearest to it.  The digits are found on the coarsest decimal grid that has a point
among the decimals that read back; the point nearest to the number is then one of its two neighbours on
that grid.

There is no exponent: zeros fill the places up to the point.
-/

set_option autoImplicit false

namespace PageRouter.Binary64

/-- The finest grid that is ever needed is that of `10 ^ -finest`. -/
def finest : Nat := 324

/-- Whether `n` points of the grid of `10 ^ (grid - finest)` read back as a number.  The decimals that
do reach half of the way to the next number on either side, and their ends read back if the mantissa is
even. -/
def readsBack (mantissa scale grid n : Nat) : Bool :=
  let unit := Nat.pow 2 scale * Nat.pow 10 finest
  let low := (4 * mantissa - if mantissa = Nat.pow 2 52 then 1 else 2) * unit
  let high := (4 * mantissa + 2) * unit
  let point := n * (Nat.pow 10 grid * Nat.pow 2 1076)
  if mantissa % 2 = 0 then low ≤ point && point ≤ high else low < point && point < high

/-- The point of a grid that is nearest to a number, if it reads back; of two such points, the upper one. -/
def nearest? (mantissa scale grid : Nat) : Option Nat :=
  let value := 4 * mantissa * (Nat.pow 2 scale * Nat.pow 10 finest)
  let step := Nat.pow 10 grid * Nat.pow 2 1076
  let below := value / step
  let isAboveNearer := value - below * step ≥ (below + 1) * step - value
  match readsBack mantissa scale grid below, readsBack mantissa scale grid (below + 1) with
  | true, true => some (if isAboveNearer then below + 1 else below)
  | true, false => some below
  | false, true => some (below + 1)
  | false, false => none

/-- The shortest digits of a positive number, and their grid. -/
def shortest (mantissa scale : Nat) : Nat × Nat :=
  ((List.range 634).reverse.findSome? fun grid =>
    (nearest? mantissa scale grid).map fun n => (n, grid)).getD (0, finest)

/-- The digits of a number on a grid, with the point at its place. -/
def positional (n grid : Nat) : List Char :=
  let digits := Nat.toDigits 10 n
  if finest ≤ grid then digits ++ List.replicate (grid - finest) '0'
  else
    let places := finest - grid
    let padded := List.replicate (places + 1 - digits.length) '0' ++ digits
    padded.take (padded.length - places) ++ '.' :: padded.drop (padded.length - places)

/-- The text of a number. -/
def display : Binary64 → String
  | .finite isNegative mantissa scale =>
    let digits :=
      if mantissa = 0 then ['0']
      else
        let (n, grid) := shortest mantissa scale
        positional n grid
    String.ofList (if isNegative then '-' :: digits else digits)
  | .infinite isNegative => if isNegative then "-inf" else "inf"
  | .notANumber => "NaN"

end PageRouter.Binary64
