import PageRouter.Pattern.Matching

/-!
# Route tables

A route binds a pattern to what is shown there: a view, by its key, or a fixed text.  A table is a list
of routes in the order in which they are tried, and `RouteTable.resolve` gives the first that matches.

`RouteTable.standard` is the table of the application.
-/

set_option autoImplicit false

namespace PageRouter

/-- What a route shows. -/
inductive Target where
  /-- The view registered under a key. -/
  | view (key : String)
  /-- A fixed text. -/
  | text (body : String)
deriving DecidableEq, Repr, Inhabited

/-- A named route. -/
structure Route where
  name : String
  pattern : Pattern
  /-- Whether the pattern has to match the whole path. -/
  exact : Bool
  target : Target
deriving DecidableEq, Repr, Inhabited

/-- Routes in the order in which they are tried. -/
structure RouteTable where
  routes : List Route
  caseSensitive : Bool
deriving DecidableEq, Repr, Inhabited

/-- A route that matches a path, and the parameters it binds. -/
structure RouteMatch where
  route : Route
  params : Params
deriving DecidableEq, Repr

/-- The parameters of a path that the route matches. -/
def Route.match? (r : Route) (path : String) (caseSensitive : Bool) : Option Params :=
  r.pattern.match? path r.exact caseSensitive

namespace RouteTable

/-- The first route that matches a path. -/
def resolve (t : RouteTable) (path : String) : Option RouteMatch :=
  t.routes.findSome? fun r => (r.match? path t.caseSensitive).map (RouteMatch.mk r)

def size (t : RouteTable) : Nat := t.routes.length

def isEmpty (t : RouteTable) : Bool := t.routes.isEmpty

/-- The text shown at `/home`. -/
def startPageText : String := "You are at the start page"

/-- The five routes of the application. -/
def standard : RouteTable where
  routes :=
    [⟨"user_gen", .ofSegments [], true, .view "user_gen"⟩,
     ⟨"home", .ofSegments [.literal "home"], false, .text startPageText⟩,
     ⟨"maker", .ofSegments [.literal "make"], false, .view "maker"⟩,
     ⟨"book", .ofSegments [.literal "book"], false, .view "book"⟩,
     ⟨"order", .ofSegments [.literal "order", .param "orderId"], false, .view "order"⟩]
  caseSensitive := false

/-! ## The first match -/

/-- A resolved route is in the table and matches with the parameters given. -/
theorem mem_of_resolve {t : RouteTable} {path : String} {m : RouteMatch}
    (h : t.resolve path = some m) :
    m.route ∈ t.routes ∧ m.route.match? path t.caseSensitive = some m.params := by
  obtain ⟨r, hr, hm⟩ := List.exists_of_findSome?_eq_some h
  obtain ⟨p, hp, rfl⟩ := Option.map_eq_some_iff.1 hm
  exact ⟨hr, hp⟩

theorem resolve_eq_none_iff {t : RouteTable} {path : String} :
    t.resolve path = none ↔ ∀ r ∈ t.routes, r.match? path t.caseSensitive = none := by
  simp [resolve, List.findSome?_eq_none_iff]

/-- Resolving reads a path only through its segments. -/
theorem resolve_congr (t : RouteTable) {path path' : String}
    (h : Path.segments path = Path.segments path') : t.resolve path = t.resolve path' := by
  simp only [resolve, Route.match?, Pattern.match?_congr h]

end RouteTable

end PageRouter
