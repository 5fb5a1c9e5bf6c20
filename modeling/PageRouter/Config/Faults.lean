import PageRouter.Config.Basic
import PageRouter.Net.SocketAddress
import PageRouter.View.Registry

/-!
# What is wrong with a configuration

`Config.faults` lists every fault of a configuration against a registry of views: first the values that
are out of range, then, route by route, a name that is taken, a pattern that cannot be read, a target
that is missing, doubled, unknown or left without a parameter, and an earlier route that leaves this one
nothing to match.  A configuration is valid when the list is empty.
-/

set_option autoImplicit false

namespace PageRouter.Config

/-- One fault of a configuration. -/
inductive Fault where
  | noRoutes
  | duplicateRouteName (route : String)
  | invalidPattern (route : String) (fault : Pattern.Fault)
  | missingTarget (route : String)
  | ambiguousTarget (route : String)
  | unknownView (route view : String)
  | unboundParam (route view param : String)
  | shadowedRoute (route earlier : String)
  | zeroTimeout
  | zeroMaxConnections
  | invalidBindAddress (address : String)
  | invalidMetricsAddress (address : String)
deriving DecidableEq, Repr

/-- The wording of a fault. -/
def Fault.message : Fault → String
  | .noRoutes => "no routes configured"
  | .duplicateRouteName route => "route name `" ++ route ++ "` is used more than once"
  | .invalidPattern route fault => "route `" ++ route ++ "`: " ++ fault.message
  | .missingTarget route => "route `" ++ route ++ "` has neither a view nor text"
  | .ambiguousTarget route => "route `" ++ route ++ "` has both a view and text"
  | .unknownView route view =>
    "route `" ++ route ++ "` references unknown view `" ++ view ++ "`"
  | .unboundParam route view param =>
    "route `" ++ route ++ "` binds view `" ++ view ++ "` which requires parameter `" ++ param ++
      "` missing from the path"
  | .shadowedRoute route earlier =>
    "route `" ++ route ++ "` can never match: shadowed by earlier route `" ++ earlier ++ "`"
  | .zeroTimeout => "timeouts.request_secs must be greater than zero"
  | .zeroMaxConnections => "listener.max_connections must be greater than zero"
  | .invalidBindAddress address => "invalid bind address `" ++ address ++ "`"
  | .invalidMetricsAddress address => "invalid metrics address `" ++ address ++ "`"

/-- Faults on one line. -/
def joinFaults (faults : List Fault) : String := ", ".intercalate (faults.map Fault.message)

/-- Whether a text is a socket address. -/
def isAddress (text : String) : Bool := (Net.SocketAddress.parse? text).isSome

/-- The values that are out of range.  The metrics address counts only when metrics are published. -/
def rangeFaults (c : Config) : List Fault :=
  (if c.timeouts.requestSecs = 0 then [.zeroTimeout] else []) ++
  (if c.listener.maxConnections = 0 then [.zeroMaxConnections] else []) ++
  (if isAddress c.listener.bindAddress then []
    else [.invalidBindAddress c.listener.bindAddress]) ++
  (if c.observability.metricsEnabled && !isAddress c.observability.metricsAddress then
    [.invalidMetricsAddress c.observability.metricsAddress] else [])

/-- What is wrong with the target of a route.  Parameters are checked only against a pattern that could
be read. -/
def targetFaults (views : View.Registry) (d : RouteDecl) (pattern? : Option Pattern) : List Fault :=
  match d.view, d.text with
  | none, none => [.missingTarget d.name]
  | some _, some _ => [.ambiguousTarget d.name]
  | none, some _ => []
  | some key, none =>
    match views.find? key, pattern? with
    | none, _ => [.unknownView d.name key]
    | some _, none => []
    | some view, some pattern =>
      (view.required.filter fun p => !pattern.paramNames.contains p).map
        (.unboundParam d.name key)

/-- A declared route whose pattern could be read. -/
structure Reachable where
  name : String
  pattern : Pattern
  exact : Bool

/-- The first of the earlier routes that matches whatever a pattern matches. -/
def shadowedBy (caseSensitive : Bool) (earlier : List Reachable) (pattern : Pattern)
    (isExact : Bool) : Option Reachable :=
  earlier.find? fun e => e.pattern.covers e.exact pattern isExact caseSensitive

/-- The faults of one route behind others: the names taken so far, and the routes that could be read. -/
def faultsOfRoute (views : View.Registry) (caseSensitive : Bool) (names : List String)
    (earlier : List Reachable) (d : RouteDecl) : List Fault :=
  (if d.name ∈ names then [.duplicateRouteName d.name] else []) ++
  match Pattern.parse d.path with
  | .error fault => .invalidPattern d.name fault :: targetFaults views d none
  | .ok pattern =>
    targetFaults views d (some pattern) ++
    match shadowedBy caseSensitive earlier pattern d.exact with
    | some e => [.shadowedRoute d.name e.name]
    | none => []

/-- The route, if its pattern can be read. -/
def Reachable.ofDecl? (d : RouteDecl) : Option Reachable :=
  match Pattern.parse d.path with
  | .ok pattern => some ⟨d.name, pattern, d.exact⟩
  | .error _ => none

/-- The faults of the routes from one on, with what the routes before it leave behind. -/
def faultsFrom (views : View.Registry) (caseSensitive : Bool) (names : List String)
    (earlier : List Reachable) : List RouteDecl → List Fault
  | [] => []
  | d :: ds =>
    faultsOfRoute views caseSensitive names earlier d ++
      faultsFrom views caseSensitive (d.name :: names)
        (earlier ++ (Reachable.ofDecl? d).toList) ds

/-- The faults of the routes.  A configuration without routes has that one fault. -/
def routeFaults (c : Config) (views : View.Registry) : List Fault :=
  match c.routes with
  | [] => [.noRoutes]
  | routes => faultsFrom views c.routing.caseSensitive [] [] routes

/-- Every fault of a configuration, in order. -/
def faults (c : Config) (views : View.Registry) : List Fault :=
  c.rangeFaults ++ c.routeFaults views

/-- The configuration itself, if it has no faults. -/
def validate (c : Config) (views : View.Registry) : Except (List Fault) Unit :=
  match c.faults views with
  | [] => .ok ()
  | faults => .error faults

theorem validate_eq_ok_iff {c : Config} {views : View.Registry} :
    c.validate views = .ok () ↔ c.faults views = [] := by
  rw [validate]
  split
  · rename_i h
    simp [h]
  · rename_i h
    exact ⟨(nomatch ·), fun hc => absurd hc h⟩

end PageRouter.Config
