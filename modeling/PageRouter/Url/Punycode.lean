import PageRouter.Text.Number

/-!
# Punycode

A label of a domain name that is not ASCII is carried as ASCII: first its ASCII characters, then one number
for each of the others.  The numbers are the distances between insertions, taken in the order of code
points; they are written in base thirty-six with digits of decreasing weight, and the threshold at which a
number ends adapts to the numbers before it.

`decode?` reads such a label back.  It looks at each character once.
-/

set_option autoImplicit false

namespace PageRouter.Url.Punycode

/-- The value of a digit: letters come first, in either case, and then the decimal digits. -/
def digit? (c : Char) : Option Nat :=
  (Text.digitValue? c).map fun d => if d < 10 then d + 26 else d - 10

/-- The digit at position `k` that ends a number. -/
def threshold (k bias : Nat) : Nat :=
  if k ≤ bias then 1 else if bias + 26 ≤ k then 26 else k - bias

/-- A distance made small, and the bias that this adds up to. -/
def scaleDown (delta k : Nat) : Nat × Nat :=
  if 455 < delta then scaleDown (delta / 35) (k + 36) else (delta, k)
termination_by delta
decreasing_by exact Nat.div_lt_self (by omega) (by omega)

/-- The bias after a distance was read. -/
def adapt (delta size : Nat) (isFirst : Bool) : Nat :=
  let delta := if isFirst then delta / 700 else delta / 2
  let (delta, k) := scaleDown (delta + delta / size) 0
  k + 36 * delta / (delta + 38)

/-- A label that is being put together. -/
structure State where
  output : List Char
  /-- The code point that is inserted next, as far as it is known. -/
  point : Nat
  /-- Where it is inserted, as far as that is known. -/
  place : Nat
  bias : Nat
  /-- The weight of the next digit of a number that has begun. -/
  weight : Nat
  /-- The position of that digit, counted in steps of thirty-six. -/
  position : Nat
  /-- Where the last insertion left off. -/
  start : Nat

/-- Take one digit.  A digit below the threshold ends its number, and a character is inserted. -/
def State.step (s : State) (c : Char) : Option State := do
  let d ← digit? c
  let place := s.place + d * s.weight
  let t := threshold s.position s.bias
  if t ≤ d then
    return { s with place, weight := s.weight * (36 - t), position := s.position + 36 }
  else
    let size := s.output.length + 1
    let point := s.point + place / size
    guard point.isValidChar
    let slot := place % size
    return {
      output := s.output.insertIdx slot (.ofNat point)
      point
      place := slot + 1
      bias := adapt (place - s.start) size (s.start == 0)
      weight := 1
      position := 36
      start := slot + 1 }

/-- The text in front of the last hyphen, and the text behind it.  A hyphen at the very front does not
count. -/
def splitAtHyphen (cs : List Char) : List Char × List Char :=
  let digits := (cs.reverse.takeWhile (· != '-')).reverse
  let front := cs.take (cs.length - digits.length - 1)
  if front.isEmpty then ([], cs) else (front, digits)

/-- The label that a text stands for. -/
def decode? (cs : List Char) : Option (List Char) := do
  let (front, digits) := splitAtHyphen cs
  guard (front.all (·.toNat < 0x80))
  let s ← digits.foldlM State.step ⟨front, 128, 0, 72, 1, 36, 0⟩
  guard (s.position == 36)
  return s.output

end PageRouter.Url.Punycode
