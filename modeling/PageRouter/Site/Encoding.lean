import PageRouter.Data.Value
import PageRouter.Screen

/-!
# Outcomes as data

How routes and the outcomes of visits are written for other programs.  The fields of an outcome stand in a
fixed order, beginning with the kind of outcome; those of a route are in the order of their names.
-/

set_option autoImplicit false

namespace PageRouter

open Data

/-- Bindings as a list of pairs. -/
def Params.toValue (p : Params) : Value :=
  .list (p.bindings.map fun b => .list [.text b.1, .text b.2])

/-- A text, or null. -/
def optionalText : Option String → Value
  | some s => .text s
  | none => .null

/-- The fields of a screen. -/
def Screen.toFields (s : Screen) : List (String × Value) :=
  [("route", .text s.route), ("view", optionalText s.view), ("params", s.params.toValue),
   ("body", .text s.body)]

/-- An outcome as a table. -/
def Outcome.toValue : Outcome → Value
  | .rendered screen => .table (("outcome", .text "rendered") :: screen.toFields)
  | .noMatch path => .table [("outcome", .text "no_match"), ("path", .text path)]

/-- A target as a table with one key. -/
def Target.toValue : Target → Value
  | .view key => .table [("view", .text key)]
  | .text body => .table [("text", .text body)]

/-- A route as a table. -/
def Route.toValue (r : Route) : Value :=
  .table
    [("exact", .bool r.exact), ("name", .text r.name),
     ("params", .list (r.pattern.paramNames.map .text)), ("pattern", .text r.pattern.source),
     ("target", r.target.toValue)]

end PageRouter
