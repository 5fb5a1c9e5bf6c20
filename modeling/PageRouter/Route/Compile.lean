import PageRouter.Config.Basic

/-!
# From declared routes to a table

Compiling a list of declared routes reads their patterns and settles their targets.  It stops at the
first route that cannot be compiled; in a route with two faults the target is blamed before the pattern.
-/

set_option autoImplicit false

namespace PageRouter

/-- Why a declared route cannot be compiled. -/
inductive RouteError where
  | badPattern (fault : Pattern.Fault)
  /-- The route names neither a view nor a text. -/
  | missingTarget (route : String)
  /-- The route names both a view and a text. -/
  | ambiguousTarget (route : String)
deriving DecidableEq, Repr

/-- The wording of a route error. -/
def RouteError.message : RouteError → String
  | .badPattern fault => fault.message
  | .missingTarget route => "route `" ++ route ++ "` has neither a view nor text"
  | .ambiguousTarget route => "route `" ++ route ++ "` has both a view and text"

namespace RouteDecl

/-- The one target that a declared route names. -/
def target (d : RouteDecl) : Except RouteError Target :=
  match d.view, d.text with
  | some key, none => .ok (.view key)
  | none, some body => .ok (.text body)
  | none, none => .error (.missingTarget d.name)
  | some _, some _ => .error (.ambiguousTarget d.name)

/-- Compile one route. -/
def compile (d : RouteDecl) : Except RouteError Route := do
  let target ← d.target
  let pattern ← (Pattern.parse d.path).mapError RouteError.badPattern
  return ⟨d.name, pattern, d.exact, target⟩

/-- Compile routes in order, up to the first that cannot be compiled. -/
def compileAll : List RouteDecl → Except RouteError (List Route)
  | [] => .ok []
  | d :: ds => do
    let route ← d.compile
    return route :: (← compileAll ds)

end RouteDecl

/-- The table of a list of declared routes. -/
def RouteTable.ofDecls (decls : List RouteDecl) (routing : Config.Routing) :
    Except RouteError RouteTable := do
  return ⟨← RouteDecl.compileAll decls, routing.caseSensitive⟩

end PageRouter
