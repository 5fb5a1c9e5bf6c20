import PageRouter.Route.Table

/-!
# Configuration

A configuration says where to listen, how long a request may take, what to log, how routes are compared,
and which routes there are.  Everything has a default, and the default routes are those of the
application.  A route as it is declared may name a view, a text, both or neither; whether it makes sense
is for `Config.faults` to say.
-/

set_option autoImplicit false

namespace PageRouter

/-- A route as it is declared. -/
structure RouteDecl where
  name : String
  path : String
  exact : Bool := false
  view : Option String := none
  text : Option String := none
deriving DecidableEq, Repr, Inhabited

/-- The routes that are declared when a configuration names none. -/
def RouteDecl.standard : List RouteDecl :=
  [⟨"user_gen", "/", true, some "user_gen", none⟩,
   ⟨"home", "/home", false, none, some RouteTable.startPageText⟩,
   ⟨"maker", "/make", false, some "maker", none⟩,
   ⟨"book", "/book", false, some "book", none⟩,
   ⟨"order", "/order/:orderId", false, some "order", none⟩]

namespace Config

/-- Where to listen, and how many requests to serve at once. -/
structure Listener where
  bindAddress : String := "127.0.0.1:3000"
  maxConnections : UInt64 := 1024
deriving DecidableEq, Repr, Inhabited

/-- How long a request may take. -/
structure Timeouts where
  requestSecs : UInt64 := 30
deriving DecidableEq, Repr, Inhabited

/-- How log records are laid out. -/
inductive LogFormat where
  | pretty
  | json
deriving DecidableEq, Repr, Inhabited

/-- The word for a layout. -/
def LogFormat.word : LogFormat → String
  | .pretty => "pretty"
  | .json => "json"

/-- The layout that a word names. -/
def LogFormat.ofWord? (word : String) : Option LogFormat :=
  if word = "pretty" then some .pretty
  else if word = "json" then some .json
  else none

theorem LogFormat.ofWord?_word (f : LogFormat) : ofWord? f.word = some f := by
  cases f <;> rfl

/-- What to log, and whether to publish metrics. -/
structure Observability where
  logLevel : String := "info"
  logFormat : LogFormat := .pretty
  metricsEnabled : Bool := false
  metricsAddress : String := "127.0.0.1:9100"
deriving DecidableEq, Repr, Inhabited

/-- How literal segments compare. -/
structure Routing where
  caseSensitive : Bool := false
deriving DecidableEq, Repr, Inhabited

end Config

/-- A whole configuration. -/
structure Config where
  listener : Config.Listener := {}
  timeouts : Config.Timeouts := {}
  observability : Config.Observability := {}
  routing : Config.Routing := {}
  routes : List RouteDecl := RouteDecl.standard
deriving DecidableEq, Repr, Inhabited

/-- The configuration in which everything has its default. -/
def Config.standard : Config := {}

end PageRouter
