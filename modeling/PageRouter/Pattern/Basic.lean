import PageRouter.Path

/-!
# Route patterns

A pattern such as `/order/:orderId` is a list of segments, each a literal text or a named parameter.
`Pattern.parse` reads one and blames the first segment that is wrong; `Pattern.ofSegments` writes one.

The text a pattern was read from is kept and shown as it was written, so two patterns with the same
segments and different spellings are different patterns.
-/

set_option autoImplicit false

namespace PageRouter

namespace Pattern

/-- One segment of a pattern. -/
inductive Segment where
  /-- A text that must stand in the path. -/
  | literal (text : String)
  /-- A name bound to whatever segment stands in its place. -/
  | param (name : String)
deriving DecidableEq, Repr, Inhabited

/-- The name that a segment binds, if it binds one. -/
def Segment.name? : Segment → Option String
  | .literal _ => none
  | .param name => some name

/-- A segment as it is written in a pattern. -/
def Segment.written : Segment → String
  | .literal text => text
  | .param name => ":" ++ name

end Pattern

/-- A route pattern: its segments, and the text it was read from. -/
structure Pattern where
  source : String
  segments : List Pattern.Segment
deriving DecidableEq, Repr, Inhabited

namespace Pattern

/-- What can be wrong with the text of a pattern. -/
inductive Fault where
  /-- The text does not begin with a slash. -/
  | missingLeadingSlash (source : String)
  /-- A segment is a colon with no name behind it. -/
  | emptyParamName (source : String)
  /-- A parameter name stands in two segments. -/
  | duplicateParam (source name : String)
deriving DecidableEq, Repr

/-- The wording of a fault. -/
def Fault.message : Fault → String
  | .missingLeadingSlash source => "pattern `" ++ source ++ "` must start with `/`"
  | .emptyParamName source => "pattern `" ++ source ++ "` has a parameter with an empty name"
  | .duplicateParam source name =>
    "pattern `" ++ source ++ "` declares parameter `" ++ name ++ "` more than once"

/-- The segment that a piece of a pattern's text stands for. -/
def Segment.ofText (text : String) : Segment :=
  match text.toList with
  | ':' :: name => .param (String.ofList name)
  | _ => .literal text

/-- Read the pieces of a pattern from left to right.  `declared` holds the names that stand further
left. -/
def readSegments (source : String) : List String → List String → Except Fault (List Segment)
  | _, [] => .ok []
  | declared, text :: rest =>
    match Segment.ofText text with
    | .literal t => return .literal t :: (← readSegments source declared rest)
    | .param name =>
      if name.isEmpty then .error (.emptyParamName source)
      else if name ∈ declared then .error (.duplicateParam source name)
      else return .param name :: (← readSegments source (name :: declared) rest)

/-- Whether a text begins with a slash. -/
def startsWithSlash (text : String) : Bool := text.toList.head? == some '/'

/-- Read a pattern. -/
def parse (source : String) : Except Fault Pattern :=
  if startsWithSlash source then do
    return ⟨source, ← readSegments source [] (Path.segments source)⟩
  else .error (.missingLeadingSlash source)

/-- The text of a list of segments: each behind a slash, and a lone slash for none. -/
def written (segments : List Segment) : String :=
  match segments with
  | [] => "/"
  | _ => String.join (segments.map fun s => "/" ++ s.written)

/-- The pattern of a list of segments. -/
def ofSegments (segments : List Segment) : Pattern := ⟨written segments, segments⟩

/-- The parameter names, in the order they are declared. -/
def paramNames (p : Pattern) : List String := p.segments.filterMap Segment.name?

end Pattern

end PageRouter
