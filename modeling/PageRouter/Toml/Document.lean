import PageRouter.Toml.Expression

/-!
# TOML texts

A text is a list of statements: headers of tables, headers of elements of arrays of tables, and keys with
values, which go to the table of the header in front of them.  `Toml.parse?` reads a text and builds its
tree.
-/

set_option autoImplicit false

namespace PageRouter.Toml

open Data

/-- A statement of a text. -/
inductive Statement where
  /-- A line that says nothing. -/
  | blank
  /-- A header in single brackets. -/
  | table (key : List String)
  /-- A header in double brackets. -/
  | element (key : List String)
  | pair (key : List String) (value : Value)

/-! ## Reading statements -/

/-- A key between brackets, up to the end of the line. -/
def header (opening closing : String) : Reader (List String) := fun cs => do
  let (_, rest) ← literal opening cs
  let (k, rest) ← key rest
  let (_, rest) ← literal closing rest
  let (_, rest) ← lineEnd rest
  return (k, rest)

/-- One statement. -/
def statement : Reader Statement := fun cs =>
  match skipBlanks cs with
  | '[' :: '[' :: rest => (header "[[" "]]" ('[' :: '[' :: rest)).map fun r => (.element r.1, r.2)
  | '[' :: rest => (header "[" "]" ('[' :: rest)).map fun r => (.table r.1, r.2)
  | '#' :: rest => (lineEnd ('#' :: rest)).map fun r => (.blank, r.2)
  | '\n' :: rest => some (.blank, rest)
  | '\r' :: '\n' :: rest => some (.blank, rest)
  | [] => none
  | cs => do
    let ((k, v), rest) ← keyValue value cs
    let (_, rest) ← lineEnd rest
    return (.pair k v, rest)

/-- A text without the mark that it is Unicode. -/
def withoutMark : List Char → List Char
  | '\ufeff' :: cs => cs
  | cs => cs

/-- The statements of a whole text. -/
def statements? (text : String) : Option (List Statement) :=
  let (all, rest) := repeated statement (withoutMark text.toList)
  if (skipBlanks rest).isEmpty then some all else none

/-! ## Building the tree -/

/-- Where the table that is being filled belongs. -/
inductive Place where
  /-- It is the whole document. -/
  | root
  | table (key : List String)
  | element (key : List String)

/-- A document under construction. -/
structure Builder where
  /-- The tables that are finished. -/
  root : Table
  /-- The table that is being filled. -/
  current : Table
  place : Place

/-- The document before its first statement. -/
def Builder.initial : Builder := ⟨.new .header, .new .header, .root⟩

/-- The document with the current table in its place. -/
def Builder.finish? (b : Builder) : Option Table :=
  match b.place with
  | .root => some b.current
  | .table key => b.root.define? key b.current
  | .element key => b.root.append? key b.current

/-- Follow one statement. -/
def Builder.step (b : Builder) : Statement → Option Builder
  | .blank => some b
  | .pair key value => do
    return { b with current := ← b.current.insert? key value }
  | .table key => do
    let root ← b.finish?
    return ⟨root, ← root.open? key, .table key⟩
  | .element key => do
    let root ← b.finish?
    if root.admitsElement key then some ⟨root, .new .header, .element key⟩ else none

/-- The tree that a text stands for. -/
def parse? (text : String) : Option Value := do
  let b ← (← statements? text).foldlM Builder.step .initial
  return (← b.finish?).toValue

end PageRouter.Toml
