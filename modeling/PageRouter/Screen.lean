import PageRouter.Route.Table

/-!
# Screens

What a visitor of a path gets to see: the body of the route that matched, or the news that none did.
-/

set_option autoImplicit false

namespace PageRouter

/-- A rendered route. -/
structure Screen where
  route : String
  /-- The view that rendered the body; none if the body is a fixed text. -/
  view : Option String
  params : Params
  body : String
deriving DecidableEq, Repr

/-- The outcome of visiting a path. -/
inductive Outcome where
  | rendered (screen : Screen)
  | noMatch (path : String)
deriving DecidableEq, Repr

/-- The screen, if there is one. -/
def Outcome.screen? : Outcome → Option Screen
  | .rendered screen => some screen
  | .noMatch _ => none

end PageRouter
