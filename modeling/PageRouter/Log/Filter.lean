import PageRouter.Config.Basic
import PageRouter.Log.Directive

/-!
# Log filters

A filter is a list of directives between commas, put into order: the longest target comes first, and a
directive for the same place as an earlier one takes its place.  Directives that depend on a span or on the
value of a field come behind the others; one that names fields without values stands in both groups.

Nothing between two commas is no directive, so a filter may be empty.

The environment may hold a filter that goes before the configured one, unless it cannot be read.
-/

set_option autoImplicit false

namespace PageRouter.Log

/-- Directives in the order in which they are tried. -/
structure Filter where
  /-- Those that a target and field names decide. -/
  fixed : List Directive
  /-- Those that spans and field values decide as well. -/
  varying : List Directive
deriving DecidableEq, Repr

namespace Filter

/-- The order of fields: one without a value comes before those with one, then their names decide, and then the
values. -/
def compareFields (a b : Field) : Ordering :=
  (Ord.compare a.value.isSome b.value.isSome).then <|
  (Ord.compare a.name b.name).then <|
  match a.value, b.value with
  | some v, some w => v.compare w
  | _, _ => .eq

/-- The order of directives by how much they ask for.  It compares the sizes of targets, then whether a
span is named, then the number of fields, and then targets, spans and fields themselves. -/
def compare (a b : Directive) : Ordering :=
  (Ord.compare (a.target.map String.utf8ByteSize) (b.target.map String.utf8ByteSize)).then <|
  (Ord.compare a.span.isSome b.span.isSome).then <|
  (Ord.compare a.fields.length b.fields.length).then <|
  (Ord.compare a.target b.target).then <|
  (Ord.compare a.span b.span).then <|
  List.compareLex compareFields a.fields b.fields

/-- Put a directive among others, in the stead of one for the same place. -/
def insert (d : Directive) : List Directive → List Directive
  | [] => [d]
  | e :: es =>
    match compare d e with
    | .gt => d :: e :: es
    | .eq => d :: es
    | .lt => e :: insert d es

/-- Whether a directive depends on more than its target. -/
def isVarying (d : Directive) : Bool := d.span.isSome || !d.fields.isEmpty

/-- Whether no span and no value of a field matters to a directive. -/
def isFixed (d : Directive) : Bool := d.span.isNone && d.fields.all fun f => f.value.isNone

/-- The filter of directives. -/
def ofDirectives (ds : List Directive) : Filter :=
  let fixed := ds.filter fun d => !isVarying d
  let varying := ds.filter isVarying
  let order (l : List Directive) := l.foldl (fun acc d => insert d acc) []
  ⟨order (fixed ++ varying.filter isFixed), order varying⟩

/-- Read a filter. -/
def parse (text : String) : Except FilterFault Filter := do
  let pieces := (Text.pieces (· == ',') text.toList).filter fun piece => !piece.isEmpty
  return ofDirectives (← pieces.mapM Directive.parse)

/-- A filter as a text. -/
def display (f : Filter) : String := ",".intercalate ((f.fixed ++ f.varying).map Directive.display)

end Filter

/-- Why logging cannot be set up. -/
inductive Error where
  | badFilter (text : String) (fault : FilterFault)
  /-- A filter falls apart inside a character, which ends the program. -/
  | crash
  | alreadyInstalled
deriving DecidableEq, Repr

/-- The error that a fault of a filter is. -/
def Error.ofFault (text : String) (fault : FilterFault) : Error :=
  if fault = .splitCharacter then .crash else .badFilter text fault

/-- The wording of an error. -/
def Error.message : Error → String
  | .badFilter text fault => "invalid log filter `" ++ text ++ "`: " ++ fault.message
  | .crash => FilterFault.splitCharacter.message
  | .alreadyInstalled =>
    "failed to install subscriber: a global default trace dispatcher has already been set"

/-- The filter of a configured level: the one from the environment if it can be read, otherwise the
configured one. -/
def chooseFilter (level : String) (environment : Option String) : Except Error Filter :=
  match environment.map Filter.parse with
  | some (.ok filter) => .ok filter
  | some (.error .splitCharacter) => .error .crash
  | _ => (Filter.parse level).mapError (.ofFault level)

/-- Set logging up, which can be done once only. -/
def setUp (o : Config.Observability) (environment : Option String) (isInstalled : Bool) :
    Except Error Filter := do
  let filter ← chooseFilter o.logLevel environment
  if isInstalled then throw .alreadyInstalled
  return filter

end PageRouter.Log
