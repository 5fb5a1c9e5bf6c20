import PageRouter.Toml.Moment
import PageRouter.Toml.Table
import PageRouter.Toml.Text

/-!
# Keys and values of TOML

A key is a name, or names joined by points.  A value is a string, a number, a moment, a truth value, an array
or an inline table.  Arrays may spread over lines and end in a comma; inline tables may do neither.

Keys and values may nest to a fixed depth only, which is also what makes reading them end.
-/

set_option autoImplicit false

namespace PageRouter.Toml

open Data

/-- The depth at which nesting is refused. -/
def maxDepth : Nat := 80

/-! ## Keys -/

def isBareChar (c : Char) : Bool := c.isAlphanum || c == '-' || c == '_'

/-- One name of a key, with blanks around it. -/
def simpleKey : Reader String := fun cs => do
  let cs := skipBlanks cs
  let (name, rest) ←
    match cs with
    | '"' :: _ => basicString cs
    | '\'' :: _ => literalString cs
    | _ =>
      let name := cs.takeWhile isBareChar
      if name.isEmpty then none else some (String.ofList name, cs.dropWhile isBareChar)
  return (name, skipBlanks rest)

/-- Something behind a character. -/
def behind {α : Type} (c : Char) (item : Reader α) : Reader α
  | d :: cs => if d = c then item cs else none
  | [] => none

/-- A dotted key that is not too long. -/
def key : Reader (List String) := fun cs => do
  let (name, rest) ← simpleKey cs
  let (names, rest) := repeated (behind '.' simpleKey) rest
  if maxDepth ≤ names.length + 1 then none else some (name :: names, rest)

/-! ## Values -/

/-- A truth value or a word for a decimal. -/
def word : Reader Value := fun cs =>
  match literal "true" cs, literal "false" cs with
  | some (_, rest), _ => some (.bool true, rest)
  | none, some (_, rest) => some (.bool false, rest)
  | none, none => (special cs).map fun (_, rest) => (.decimal (taken cs rest), rest)

/-- A value that is no array and no inline table. -/
def scalar : Reader Value := fun cs =>
  match cs with
  | c :: _ =>
    if c == '"' || c == '\'' then (anyString cs).map fun (s, rest) => (.text s, rest)
    else if c == '+' || c == '-' || c.isDigit then either moment (either decimal integer) cs
    else word cs
  | [] => none

/-- A value with blanks, line breaks and comments around it. -/
def spaced (value : Reader Value) : Reader Value := fun cs => do
  let (v, rest) ← value (← skipGap false cs)
  return (v, ← skipGap false rest)

/-- The items of an array, and its closing bracket. -/
def arrayBody (value : Reader Value) : Reader Value := fun cs =>
  match spaced value cs with
  | none => do
    let (_, rest) ← literal "]" (← skipGap false cs)
    return (.list [], rest)
  | some (first, rest) => do
    let (more, rest) := repeated (behind ',' (spaced value)) rest
    let rest := (optional (literal ",") rest).2
    let (_, rest) ← literal "]" (← skipGap false rest)
    return (.list (first :: more), rest)

/-- A key with its value. -/
def keyValue (value : Reader Value) : Reader (List String × Value) := fun cs => do
  let (k, rest) ← key cs
  let (_, rest) ← literal "=" rest
  let (v, rest) ← value (skipBlanks rest)
  return ((k, v), skipBlanks rest)

/-- The table of keys and values that stand next to each other. -/
def ofPairs (pairs : List (List String × Value)) : Option Table :=
  pairs.foldlM (fun t p => t.insert? p.1 p.2) (Table.new .header)

/-- The pairs of an inline table, and its closing brace. -/
def inlineBody (value : Reader Value) : Reader Value := fun cs =>
  match keyValue value cs with
  | none => do
    let (_, rest) ← literal "\x7d" (skipBlanks cs)
    return (.table [], rest)
  | some (first, rest) => do
    let (more, rest) := repeated (behind ',' (keyValue value)) rest
    let (_, rest) ← literal "\x7d" rest
    return ((← ofPairs (first :: more)).toValue, rest)

/-- A value in which arrays and inline tables nest less deeply than some bound. -/
def nested : Nat → Reader Value
  | 0 => fun cs =>
    match cs with
    | '[' :: _ => none
    | '\x7b' :: _ => none
    | _ => scalar cs
  | depth + 1 => fun cs =>
    match cs with
    | '[' :: rest => arrayBody (nested depth) rest
    | '\x7b' :: rest => inlineBody (nested depth) rest
    | _ => scalar cs

/-- A value. -/
def value : Reader Value := nested (maxDepth - 1)

end PageRouter.Toml
