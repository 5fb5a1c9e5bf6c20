import PageRouter.Config.Faults
import PageRouter.Route.Compile
import PageRouter.Site.Basic

/-!
# Starting a site

`Site.start` takes a configuration and views to a site: it refuses a configuration that has any fault, and
then compiles the routes and binds them.  `Site.assemble` compiles and binds without looking for faults.
-/

set_option autoImplicit false

namespace PageRouter.Site

/-- Why a site cannot be started. -/
inductive StartError where
  | invalid (faults : List Config.Fault)
  | route (cause : RouteError)
  | unbound (cause : BindError)
deriving DecidableEq, Repr

/-- The wording of a start error. -/
def StartError.message : StartError → String
  | .invalid faults => "invalid configuration: " ++ Config.joinFaults faults
  | .route cause => cause.message
  | .unbound cause => cause.message

/-- Compile the routes of a configuration and bind them to views. -/
def assemble (c : Config) (views : View.Registry) : Except StartError Site := do
  let table ← (RouteTable.ofDecls c.routes c.routing).mapError StartError.route
  (bind table views).mapError StartError.unbound

/-- Start a site from a configuration. -/
def start (c : Config) (views : View.Registry) : Except StartError Site := do
  (c.validate views).mapError StartError.invalid
  assemble c views

end PageRouter.Site
