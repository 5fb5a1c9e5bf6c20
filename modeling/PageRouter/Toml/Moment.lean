import PageRouter.Data.Value
import PageRouter.Text.Number
import PageRouter.Toml.Number

/-!
# Moments in time

A moment is a date, a time of day, or both, and then it may have an offset.  Dates follow the calendar, and a
minute may have a leap second.  Only the spelling of a moment is kept.
-/

set_option autoImplicit false

namespace PageRouter.Toml

open Data

/-- A number of exactly `n` decimal digits, between two bounds. -/
def field (n low high : Nat) : Reader Nat := fun cs =>
  let ds := cs.take n
  match ds.length, Text.number? 10 ds with
  | size, some value => if size = n ∧ low ≤ value ∧ value ≤ high then some (value, cs.drop n) else none
  | _, none => none

/-- Whether a year has a leap day. -/
def isLeap (year : Nat) : Bool := year % 4 == 0 && (year % 100 != 0 || year % 400 == 0)

/-- The number of days of a month. -/
def daysIn (year month : Nat) : Nat :=
  if month = 2 then (if isLeap year then 29 else 28)
  else if month ∈ [4, 6, 9, 11] then 30
  else 31

/-- A date of the calendar. -/
def date : Reader Unit := fun cs => do
  let (year, rest) ← field 4 0 9999 cs
  let (_, rest) ← literal "-" rest
  let (month, rest) ← field 2 1 12 rest
  let (_, rest) ← literal "-" rest
  let (_, rest) ← field 2 1 (daysIn year month) rest
  return ((), rest)

/-- The fraction of a second. -/
def secondFraction : Reader Unit
  | '.' :: cs =>
    match Text.spanDigits 10 cs with
    | ([], _) => none
    | (_, rest) => some ((), rest)
  | _ => none

/-- A time of day. -/
def timeOfDay : Reader Unit := fun cs => do
  let (_, rest) ← field 2 0 23 cs
  let (_, rest) ← literal ":" rest
  let (_, rest) ← field 2 0 59 rest
  let (_, rest) ← literal ":" rest
  let (_, rest) ← field 2 0 60 rest
  return ((), (optional secondFraction rest).2)

/-- An offset from universal time. -/
def offset : Reader Unit
  | c :: cs =>
    if c == 'Z' || c == 'z' then some ((), cs)
    else if c == '+' || c == '-' then do
      let (_, rest) ← field 2 0 23 cs
      let (_, rest) ← literal ":" rest
      let (_, rest) ← field 2 0 59 rest
      return ((), rest)
    else none
  | [] => none

/-- The time of day behind a date, with its offset. -/
def timeBehind : Reader Unit := fun cs => do
  let (_, rest) ← oneOf (fun c => c == 'T' || c == 't' || c == ' ') cs
  let (_, rest) ← timeOfDay rest
  return ((), (optional offset rest).2)

/-- A moment. -/
def moment : Reader Value := fun cs =>
  match date cs with
  | some (_, rest) =>
    let rest := (optional timeBehind rest).2
    some (.moment (taken cs rest), rest)
  | none => (timeOfDay cs).map fun (_, rest) => (.moment (taken cs rest), rest)

end PageRouter.Toml
