import PageRouter.Text.AsciiCase
import PageRouter.Text.Number

/-!
# Numbers of double width

A number of double width is a whole number of fifty-three bits times a power of two, one of the two
infinities, or no number at all.  A decimal text stands for the nearest one; halfway between two, for
the even one.
-/

set_option autoImplicit false

namespace PageRouter

/-- A number of double width. -/
inductive Binary64 where
  /-- `mantissa * 2 ^ scale / 2 ^ 1074`, or that below zero. -/
  | finite (isNegative : Bool) (mantissa scale : Nat)
  | infinite (isNegative : Bool)
  | notANumber
deriving DecidableEq, Repr

namespace Binary64

/-! ## Rounding -/

/-- The whole number nearest to a fraction; the even one if two are equally near. -/
def roundDiv (n d : Nat) : Nat :=
  let q := n / d
  let r := n % d
  if 2 * r < d || 2 * r == d && q % 2 == 0 then q else q + 1

/-- The number nearest to `num / den`. -/
def ofRatio (isNegative : Bool) (num den : Nat) : Binary64 :=
  let units := num * Nat.pow 2 1074
  let scale := (units / den).log2 + 1 - 53
  let mantissa := roundDiv units (den * Nat.pow 2 scale)
  let (mantissa, scale) := if mantissa = Nat.pow 2 53 then (Nat.pow 2 52, scale + 1) else (mantissa, scale)
  if 2045 < scale then .infinite isNegative else .finite isNegative mantissa scale

/-- The number nearest to `digits * 10 ^ exponent`.  What is far beyond the largest or below the
smallest number is not computed with. -/
def ofDecimal (isNegative : Bool) (digits : Nat) (exponent : Int) : Binary64 :=
  let size : Int := (Nat.toDigits 10 digits).length
  if digits = 0 || size + exponent < -330 then .finite isNegative 0 0
  else if 310 < size + exponent then .infinite isNegative
  else ofRatio isNegative (digits * Nat.pow 10 exponent.toNat) (Nat.pow 10 (-exponent).toNat)

/-! ## Reading -/

/-- A sign at the front of a text: whether it is a minus, and the rest. -/
def readSign : List Char → Bool × List Char
  | '-' :: cs => (true, cs)
  | '+' :: cs => (false, cs)
  | cs => (false, cs)

/-- The exponent at the end of a number. -/
def readExponent? : List Char → Option Int
  | [] => some 0
  | c :: cs =>
    if c = 'e' || c = 'E' then
      let (isNegative, cs) := readSign cs
      (Text.number? 10 cs).map fun n => if isNegative then -(n : Int) else n
    else none

/-- A number without its sign: digits with a point anywhere among them, and an exponent. -/
def readDecimal? (isNegative : Bool) (cs : List Char) : Option Binary64 := do
  let (whole, rest) := Text.spanDigits 10 cs
  let (fraction, rest) :=
    match rest with
    | '.' :: rest => Text.spanDigits 10 rest
    | _ => ([], rest)
  guard (!(whole.isEmpty && fraction.isEmpty))
  let exponent ← readExponent? rest
  return ofDecimal isNegative (Text.ofDigits 10 (whole ++ fraction)) (exponent - fraction.length)

/-- The number that a text stands for. -/
def ofText? (text : String) : Option Binary64 :=
  let (isNegative, cs) := readSign text.toList
  let rest := String.ofList cs
  if Text.agree false "inf" rest || Text.agree false "infinity" rest then some (.infinite isNegative)
  else if Text.agree false "nan" rest then some .notANumber
  else readDecimal? isNegative cs

/-! ## Order -/

/-- A number in the smallest units, with the infinities beyond all others. -/
def units : Binary64 → Int
  | .finite isNegative mantissa scale =>
    let units : Int := ((mantissa * Nat.pow 2 scale : Nat) : Int)
    if isNegative then -units else units
  | .infinite isNegative => if isNegative then -Int.pow 2 2100 else Int.pow 2 2100
  | .notANumber => 0

end Binary64

end PageRouter
