import PageRouter.Data.Value
import PageRouter.Text.Quoted

/-!
# JSON text

`Value.json` writes a tree of data as JSON, either on one line without blanks or spread over lines with
two blanks for each level.  Both write the same tokens in the same order; only the blanks between them
differ.  Strings escape the quote, the backslash and the control characters, and nothing else.
-/

set_option autoImplicit false

namespace PageRouter.Data

/-- Where JSON text has blanks and line breaks. -/
inductive Layout where
  /-- Nowhere. -/
  | compact
  /-- Every item stands on a line of its own, two blanks deeper than the list or table around it. -/
  | indented
deriving DecidableEq, Repr

/-- What stands in front of an item at a given depth. -/
def Layout.lineBreak (layout : Layout) (depth : Nat) : List Char :=
  match layout with
  | .compact => []
  | .indented => '\n' :: List.replicate (2 * depth) ' '

/-- What stands between a key and its value. -/
def Layout.colon : Layout → List Char
  | .compact => [':']
  | .indented => [':', ' ']

/-- A character inside a JSON string. -/
def jsonChar (c : Char) : List Char :=
  if c = '"' then ['\\', '"']
  else if c = '\\' then ['\\', '\\']
  else if c = '\n' then ['\\', 'n']
  else if c = '\r' then ['\\', 'r']
  else if c = '\t' then ['\\', 't']
  else if c.toNat = 8 then ['\\', 'b']
  else if c.toNat = 12 then ['\\', 'f']
  else if c.toNat < 16 then "\\u000".toList ++ Text.hexDigits c.toNat
  else if c.toNat < 32 then "\\u00".toList ++ Text.hexDigits c.toNat
  else [c]

/-- A JSON string. -/
def jsonString (s : String) : List Char := '"' :: s.toList.flatMap jsonChar ++ ['"']

namespace Value

mutual

/-- The JSON text of a value whose items stand at a given depth. -/
def written (layout : Layout) (depth : Nat) : Value → List Char
  | .null => "null".toList
  | .bool true => "true".toList
  | .bool false => "false".toList
  | .integer n => (toString n).toList
  | .decimal spelling => spelling.toList
  | .moment spelling => jsonString spelling
  | .text s => jsonString s
  | .list [] => ['[', ']']
  | .list (item :: items) =>
    '[' :: layout.lineBreak depth ++ written layout (depth + 1) item ++
      writtenItems layout depth items ++ layout.lineBreak (depth - 1) ++ [']']
  | .table [] => ['\x7b', '\x7d']
  | .table ((key, value) :: fields) =>
    '\x7b' :: layout.lineBreak depth ++ jsonString key ++ layout.colon ++
      written layout (depth + 1) value ++ writtenFields layout depth fields ++
      layout.lineBreak (depth - 1) ++ ['\x7d']

/-- Further items of a list, each behind a comma. -/
def writtenItems (layout : Layout) (depth : Nat) : List Value → List Char
  | [] => []
  | item :: items =>
    ',' :: layout.lineBreak depth ++ written layout (depth + 1) item ++
      writtenItems layout depth items

/-- Further fields of a table, each behind a comma. -/
def writtenFields (layout : Layout) (depth : Nat) : List (String × Value) → List Char
  | [] => []
  | (key, value) :: fields =>
    ',' :: layout.lineBreak depth ++ jsonString key ++ layout.colon ++
      written layout (depth + 1) value ++ writtenFields layout depth fields

end

/-- A value as JSON text. -/
def json (layout : Layout) (v : Value) : String := String.ofList (written layout 1 v)

end Value

end PageRouter.Data
