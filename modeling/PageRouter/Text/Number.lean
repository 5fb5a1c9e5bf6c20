/-!
# Digits

Numbers are read as the longest run of digits at the front of a text, and valued by `ofDigits`.  What a
run may look like beyond that (its length, a leading zero, an upper bound) is for each format to say.
-/

set_option autoImplicit false

namespace PageRouter.Text

/-- The value of a digit or letter, with the letters going on where the digits end. -/
def digitValue? (c : Char) : Option Nat :=
  if '0' ≤ c ∧ c ≤ '9' then some (c.toNat - '0'.toNat)
  else if 'a' ≤ c ∧ c ≤ 'z' then some (c.toNat - 'a'.toNat + 10)
  else if 'A' ≤ c ∧ c ≤ 'Z' then some (c.toNat - 'A'.toNat + 10)
  else none

/-- The value of a digit in a radix of at most thirty-six. -/
def digit? (radix : Nat) (c : Char) : Option Nat := (digitValue? c).filter (· < radix)

/-- The longest run of digits at the front of a text, and the rest. -/
def spanDigits (radix : Nat) : List Char → List Nat × List Char
  | [] => ([], [])
  | c :: cs =>
    match digit? radix c with
    | none => ([], c :: cs)
    | some d =>
      let (ds, rest) := spanDigits radix cs
      (d :: ds, rest)

/-- The number that a list of digits stands for, most significant digit first. -/
def ofDigits (radix : Nat) (ds : List Nat) : Nat := ds.foldl (fun n d => n * radix + d) 0

/-- The number that a whole text stands for, if it is digits throughout and not empty. -/
def number? (radix : Nat) (cs : List Char) : Option Nat :=
  match spanDigits radix cs with
  | ([], _) => none
  | (ds, []) => some (ofDigits radix ds)
  | _ => none

end PageRouter.Text
