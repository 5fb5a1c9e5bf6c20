import PageRouter.Config.Basic
import PageRouter.Data.Value

/-!
# Configurations as data

`Config.ofValue?` reads a configuration from a tree of data and `Config.toValue` writes one.  A section
may be written as a table, in which fields may be missing and unknown fields are passed over, or as a list
of its fields in their fixed order, which may stop early.  What is missing has its default; what is there
has to be of the right kind.

The two notations that configurations come in differ in three corners, which `Source` decides.
-/

set_option autoImplicit false

namespace PageRouter

namespace Config

open Data

/-- The notation that a tree of data was read from. -/
inductive Source where
  | toml
  | json
deriving DecidableEq, Repr

/-- Whether a value can stand for a record of a given number of fields.  A list in JSON must not be
longer than the record.  A moment in TOML counts as a table with a field that no record has. -/
def Source.isRecord (source : Source) (arity : Nat) : Value → Bool
  | .table _ => true
  | .list items => source == .toml || items.length ≤ arity
  | .moment _ => source == .toml
  | _ => false

/-- Whether a value is the empty payload of a word that is written as a key: null in JSON, and an empty
list or table in TOML. -/
def Source.isEmptyPayload : Source → Value → Bool
  | .json, .null => true
  | .toml, .list [] => true
  | .toml, .table [] => true
  | _, _ => false

/-- A field of a record, by its key in a table and by its position in a list. -/
def field? (v : Value) (position : Nat) (key : String) : Option Value :=
  match v with
  | .table fields => Value.lookup fields key
  | .list items => items[position]?
  | _ => none

/-- A field that has a default.  It is refused when it is there and cannot be read. -/
def fieldOr {α : Type} (v : Value) (position : Nat) (key : String) (read : Value → Option α)
    (default : α) : Option α :=
  match field? v position key with
  | none => some default
  | some f => read f

/-- A word for a layout, or a table with that word as its one key. -/
def LogFormat.ofValue? (source : Source) : Value → Option LogFormat
  | .text word => ofWord? word
  | .table [(word, payload)] => if source.isEmptyPayload payload then ofWord? word else none
  | _ => none

def Listener.ofValue? (source : Source) (v : Value) : Option Listener := do
  guard (source.isRecord 2 v)
  return {
    bindAddress := ← fieldOr v 0 "bind_address" Value.text? ({} : Listener).bindAddress
    maxConnections := ← fieldOr v 1 "max_connections" Value.word? ({} : Listener).maxConnections }

def Timeouts.ofValue? (source : Source) (v : Value) : Option Timeouts := do
  guard (source.isRecord 1 v)
  return { requestSecs := ← fieldOr v 0 "request_secs" Value.word? ({} : Timeouts).requestSecs }

def Observability.ofValue? (source : Source) (v : Value) : Option Observability := do
  guard (source.isRecord 4 v)
  let standard : Observability := {}
  return {
    logLevel := ← fieldOr v 0 "log_level" Value.text? standard.logLevel
    logFormat := ← fieldOr v 1 "log_format" (LogFormat.ofValue? source) standard.logFormat
    metricsEnabled := ← fieldOr v 2 "metrics_enabled" Value.bool? standard.metricsEnabled
    metricsAddress := ← fieldOr v 3 "metrics_address" Value.text? standard.metricsAddress }

def Routing.ofValue? (source : Source) (v : Value) : Option Routing := do
  guard (source.isRecord 1 v)
  return { caseSensitive := ← fieldOr v 0 "case_sensitive" Value.bool? false }

end Config

open Config Data in
/-- A declared route.  The name and the path have no default. -/
def RouteDecl.ofValue? (source : Source) (v : Value) : Option RouteDecl := do
  guard (source.isRecord 5 v)
  return {
    name := ← (← field? v 0 "name").text?
    path := ← (← field? v 1 "path").text?
    exact := ← fieldOr v 2 "exact" Value.bool? false
    view := ← fieldOr v 3 "view" (Value.optional? Value.text?) none
    text := ← fieldOr v 4 "text" (Value.optional? Value.text?) none }

namespace Config

open Data

/-- A whole configuration. -/
def ofValue? (source : Source) (v : Value) : Option Config := do
  guard (source.isRecord 5 v)
  return {
    listener := ← fieldOr v 0 "listener" (Listener.ofValue? source) {}
    timeouts := ← fieldOr v 1 "timeouts" (Timeouts.ofValue? source) {}
    observability := ← fieldOr v 2 "observability" (Observability.ofValue? source) {}
    routing := ← fieldOr v 3 "routing" (Routing.ofValue? source) {}
    routes := ← fieldOr v 4 "routes" (Value.list? (RouteDecl.ofValue? source))
      RouteDecl.standard }

/-! ## Writing -/

/-- A number without a sign. -/
def wordValue (n : UInt64) : Value := .integer (.ofNat n.toNat)

def Listener.toValue (l : Listener) : Value :=
  .table [("bind_address", .text l.bindAddress), ("max_connections", wordValue l.maxConnections)]

def Timeouts.toValue (t : Timeouts) : Value := .table [("request_secs", wordValue t.requestSecs)]

def Observability.toValue (o : Observability) : Value :=
  .table
    [("log_level", .text o.logLevel), ("log_format", .text o.logFormat.word),
     ("metrics_enabled", .bool o.metricsEnabled), ("metrics_address", .text o.metricsAddress)]

def Routing.toValue (r : Routing) : Value := .table [("case_sensitive", .bool r.caseSensitive)]

/-- An optional field is left out when it is absent. -/
def optionalField (key : String) : Option String → List (String × Value)
  | some s => [(key, .text s)]
  | none => []

end Config

open Config Data in
/-- A declared route as a table. -/
def RouteDecl.toValue (d : RouteDecl) : Value :=
  .table
    ([("name", .text d.name), ("path", .text d.path), ("exact", .bool d.exact)] ++
      optionalField "view" d.view ++ optionalField "text" d.text)

open Data in
/-- A whole configuration as a table, with every default written out. -/
def Config.toValue (c : Config) : Value :=
  .table
    [("listener", c.listener.toValue), ("timeouts", c.timeouts.toValue),
     ("observability", c.observability.toValue), ("routing", c.routing.toValue),
     ("routes", .list (c.routes.map RouteDecl.toValue))]

end PageRouter
