import PageRouter.Metrics
import PageRouter.Screen
import PageRouter.View.Registry

/-!
# Sites

A site is a route table with the views that its routes refer to.  `Site.bind` makes one only if every view is
there.  `Site.visit` sends a path to the first route that matches and renders it, and says what is to be
recorded of that visit; `Site.dispatch` gives the outcome alone.
-/

set_option autoImplicit false

namespace PageRouter

/-- A route table with its views. -/
structure Site where
  table : RouteTable
  views : View.Registry

namespace Site

/-- Why a table cannot be bound to a registry of views. -/
inductive BindError where
  | unregisteredView (route view : String)
deriving DecidableEq, Repr

/-- The wording of a binding error. -/
def BindError.message : BindError → String
  | .unregisteredView route view =>
    "route `" ++ route ++ "` references view `" ++ view ++ "` which is not registered"

/-- The view of a route that a registry lacks. -/
def missingView? (views : View.Registry) (r : Route) : Option BindError :=
  match r.target with
  | .view key => if views.contains key then none else some (.unregisteredView r.name key)
  | .text _ => none

/-- Bind a table to views.  The first route whose view is missing is blamed. -/
def bind (table : RouteTable) (views : View.Registry) : Except BindError Site :=
  match table.routes.findSome? (missingView? views) with
  | some e => .error e
  | none => .ok ⟨table, views⟩

/-- Why a route that matched could not be shown. -/
inductive Failure where
  | render (cause : RenderError)
  | unbound (cause : BindError)
deriving DecidableEq, Repr

/-- The wording of a failure. -/
def Failure.message : Failure → String
  | .render cause => cause.message
  | .unbound cause => cause.message

/-- The view that a target names. -/
def viewKey? : Target → Option String
  | .view key => some key
  | .text _ => none

/-- The body of a route for some parameters. -/
def bodyOf (site : Site) (r : Route) (params : Params) : Except Failure String :=
  match r.target with
  | .text body => .ok body
  | .view key =>
    match site.views.find? key with
    | some view =>
      match view.render params with
      | .ok markup => .ok markup.html
      | .error e => .error (.render e)
    | none => .error (.unbound (.unregisteredView r.name key))

/-- The outcome of a visit, and what is recorded of it. -/
structure Visit where
  outcome : Except Failure Outcome
  sample : Metrics.Sample

/-- Visit a path. -/
def visit (site : Site) (path : String) : Visit :=
  match site.table.resolve path with
  | none => ⟨.ok (.noMatch path), ⟨Metrics.noRoute, .noMatch⟩⟩
  | some m =>
    match site.bodyOf m.route m.params with
    | .ok body =>
      ⟨.ok (.rendered ⟨m.route.name, viewKey? m.route.target, m.params, body⟩),
        ⟨m.route.name, .rendered⟩⟩
    | .error e => ⟨.error e, ⟨m.route.name, .failed⟩⟩

/-- The outcome of visiting a path. -/
def dispatch (site : Site) (path : String) : Except Failure Outcome := (site.visit path).outcome

/-- What is recorded of visiting paths one after the other. -/
def metrics (site : Site) (paths : List String) : Metrics :=
  .ofSamples (paths.map fun p => (site.visit p).sample)

/-! ## What a visit depends on -/

theorem bind_eq_ok_iff {table : RouteTable} {views : View.Registry} {site : Site} :
    bind table views = .ok site ↔
      site = ⟨table, views⟩ ∧ ∀ r ∈ table.routes, missingView? views r = none := by
  rw [bind]
  split
  · rename_i e he
    obtain ⟨r, hr, hm⟩ := List.exists_of_findSome?_eq_some he
    refine ⟨(nomatch ·), fun ⟨_, hall⟩ => ?_⟩
    rw [hall r hr] at hm
    exact absurd hm (by simp)
  · rename_i hn
    rw [List.findSome?_eq_none_iff] at hn
    constructor
    · intro h
      exact ⟨(Except.ok.inj h).symm, hn⟩
    · rintro ⟨rfl, _⟩
      rfl

/-- A path that no route matches is an outcome and not a failure. -/
theorem dispatch_of_resolve_eq_none {site : Site} {path : String}
    (h : site.table.resolve path = none) : site.dispatch path = .ok (.noMatch path) := by
  simp [dispatch, visit, h]

end Site

end PageRouter
