import PageRouter.Log.Level
import PageRouter.Log.Value
import PageRouter.Text.Slice
import PageRouter.Text.Split

/-!
# Log directives

A directive says how much is logged where: `target[span\x7bfield=value\x7d]=level`, of which most parts may be
missing.  A lone word is a level if it can be one, and otherwise a target for which everything is logged.

Places are counted in the directive without the blanks around it, and the parts are taken from the
directive as it was written.  With blanks in front of it a part may so begin or end inside a character,
and then nothing can be done with the filter.
-/

set_option autoImplicit false

namespace PageRouter.Log

/-- What is wrong with a filter. -/
inductive FilterFault where
  | badDirective
  | badLevel
  | badField (fault : Regex.Fault)
  /-- A part of a directive begins or ends inside a character. -/
  | splitCharacter
deriving DecidableEq, Repr

/-- The wording of a fault. -/
def FilterFault.message : FilterFault → String
  | .badDirective => "invalid filter directive"
  | .badLevel =>
    "error parsing level filter: expected one of \"off\", \"error\", \"warn\", \"info\", " ++
      "\"debug\", \"trace\", or a number 0-5"
  | .badField fault => "invalid field filter: " ++ fault.message
  | .splitCharacter => "byte index is not a char boundary"

/-- A field that a directive asks for, with the value that it has to have. -/
structure Field where
  name : String
  value : Option Value
deriving DecidableEq, Repr

/-- How much is logged where. -/
structure Directive where
  level : Level
  target : Option String
  span : Option String
  fields : List Field
deriving DecidableEq, Repr

namespace Directive

/-! ## Reading -/

/-- Whether a directive may begin with a character, brackets apart. -/
def mayBegin (c : Char) : Bool := Text.isLetterOrDigit c || c == '-' || c == ':' || c == '_'

/-- What is being read, from which place on. -/
inductive Scan where
  | start
  /-- A level or a target. -/
  | word (start : Nat)
  | span (start : Nat)
  | field (start : Nat)
  /-- Behind the fields, in front of the closing bracket. -/
  | closing
  /-- Behind a bracket. -/
  | bracketed
  | level (start : Nat)

/-- The text between two places. -/
def between (text : List Char) (start stop : Nat) : Except FilterFault String :=
  match Text.slice? start stop text with
  | some s => .ok s
  | none => .error .splitCharacter

/-- The text from a place on. -/
def behind (text : List Char) (start : Nat) : Except FilterFault String :=
  match Text.sliceFrom? start text with
  | some s => .ok s
  | none => .error .splitCharacter

/-- A text, unless it is empty. -/
def nonempty (s : String) : Option String := if s.isEmpty then none else some s

/-- The field that a text asks for. -/
def Field.parse (text : String) : Except FilterFault Field :=
  match Text.pieces (· == '=') text.toList with
  | name :: value :: _ =>
    match Value.parse (String.ofList value) with
    | .ok v => .ok ⟨String.ofList name, some v⟩
    | .error fault => .error (.badField fault)
  | _ => .ok ⟨text, none⟩

/-- The level behind an equals sign; everything if nothing stands there. -/
def levelOf (text : String) : Except FilterFault Level :=
  if text.isEmpty then .ok .trace
  else
    match Level.ofText? text with
    | some level => .ok level
    | none => .error .badLevel

/-- Take the character at a place. -/
def step (text : List Char) (s : Scan × Directive) (i : Nat) (c : Char) :
    Except FilterFault (Scan × Directive) :=
  let (scan, d) := s
  match scan with
  | .start =>
    if c = '[' then .ok (.span (i + 1), d)
    else if mayBegin c then .ok (.word i, d)
    else .error .badDirective
  | .word start =>
    if c = '=' then return (.level (i + 1), { d with target := some (← between text start i) })
    else if c = '[' then return (.span (i + 1), { d with target := some (← between text start i) })
    else return (scan, d)
  | .span start =>
    if c = ']' then return (.bracketed, { d with span := some (← between text start i) })
    else if c = '\x7b' then
      return (.field (i + 1), { d with span := nonempty (← between text start i) })
    else return (scan, d)
  | .field start =>
    if c = '\x7d' then do
      let field ← between text start i
      if field.isEmpty then throw .badDirective
      return (.closing, { d with fields := d.fields ++ [← Field.parse field] })
    else return (scan, d)
  | .closing => if c = ']' then .ok (.bracketed, d) else .error .badDirective
  | .bracketed => if c = '=' then .ok (.level (i + 1), d) else .error .badDirective
  | .level _ => .ok (scan, d)

/-- Take all characters from a place on. -/
def scanFrom (text : List Char) :
    Nat → Scan × Directive → List Char → Except FilterFault (Scan × Directive)
  | _, s, [] => .ok s
  | i, s, c :: cs => do scanFrom text (i + c.utf8Size) (← step text s i c) cs

/-- A directive for which a lone word stands. -/
def ofWord (d : Directive) (word : String) : Directive :=
  match Level.ofText? word with
  | some level => { d with level, target := none }
  | none => { d with level := .trace, target := some word }

/-- Read a directive. -/
def parse (text : List Char) : Except FilterFault Directive := do
  let trimmed := ((text.dropWhile Text.isBlank).reverse.dropWhile Text.isBlank).reverse
  let (scan, d) ← scanFrom text 0 (.start, ⟨.trace, none, none, []⟩) trimmed
  match scan with
  | .word start => return ofWord d (← behind text start)
  | .level start => return { d with level := ← levelOf (← behind text start) }
  | .bracketed => return d
  | _ => throw .badDirective

/-! ## Writing -/

def Field.display (f : Field) : String := f.name ++ f.value.elim "" fun v => "=" ++ v.display

/-- The part in brackets. -/
def brackets (d : Directive) : String :=
  if d.span.isNone && d.fields.isEmpty then ""
  else
    let fields := ",".intercalate (d.fields.map Field.display)
    "[" ++ d.span.getD "" ++ (if d.fields.isEmpty then "" else "\x7b" ++ fields ++ "\x7d") ++ "]"

def display (d : Directive) : String :=
  let place := d.target.getD "" ++ d.brackets
  if d.target.isNone && d.brackets.isEmpty then d.level.word else place ++ "=" ++ d.level.word

end Directive

end PageRouter.Log
