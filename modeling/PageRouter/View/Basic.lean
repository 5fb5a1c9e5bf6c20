import PageRouter.Markup
import PageRouter.Params

/-!
# Views

A view is a page that a route can show.  It is known by its key, declares the parameters without which
it cannot be shown, and renders itself from the parameters of a path.  What it declares and what it
fetches are two things: a view that fetches an undeclared parameter is caught only when it renders.
-/

set_option autoImplicit false

namespace PageRouter

/-- Why a view could not be rendered. -/
inductive RenderError where
  /-- The view asked for a parameter that the path does not bind. -/
  | missingParam (view param : String)
deriving DecidableEq, Repr

/-- The wording of a render error. -/
def RenderError.message : RenderError → String
  | .missingParam view param => "view `" ++ view ++ "` requires parameter `" ++ param ++ "`"

/-- A page that routes can refer to by its key. -/
structure View where
  key : String
  /-- The parameters that have to be bound by every route to this view. -/
  required : List String
  render : Params → Except RenderError Markup

namespace View

/-- The value of a parameter, or the error that names the view and the parameter. -/
def fetch (view : String) (params : Params) (name : String) : Except RenderError String :=
  match params.get? name with
  | some value => .ok value
  | none => .error (.missingParam view name)

/-- The values of several parameters, in order.  The first one missing is the one blamed. -/
def fetchAll (view : String) (params : Params) : List String → Except RenderError (List String)
  | [] => .ok []
  | name :: names => do
    let value ← fetch view params name
    return value :: (← fetchAll view params names)

theorem fetch_eq_ok_iff {view name value : String} {params : Params} :
    fetch view params name = .ok value ↔ params.get? name = some value := by
  cases h : params.get? name <;> simp [fetch, h]

end View

end PageRouter
