import PageRouter.Config.Basic
import PageRouter.Http.Request
import PageRouter.Http.Response
import PageRouter.Location

/-!
# Serving a site

A router answers requests from a site.  A path is normalised in the way navigation does it and is then visited;
`Router.handle` gives the response.  A router cannot be built for more connections than can be counted.
-/

set_option autoImplicit false

namespace PageRouter.Http

/-- A site that answers requests. -/
structure Router where
  site : Site

namespace Router

/-- The most connections that can be counted. -/
def maxPermits : Nat := Nat.pow 2 61 - 1

/-- Why a router cannot be built. -/
inductive BuildError where
  | tooManyConnections (limit : UInt64)
deriving DecidableEq, Repr

/-- The router of a configuration for a site. -/
def build (c : Config) (site : Site) : Except BuildError Router :=
  if c.listener.maxConnections.toNat ≤ maxPermits then .ok ⟨site⟩
  else .error (.tooManyConnections c.listener.maxConnections)

/-- The answer to `GET` of a path. -/
def get (r : Router) (path : String) : Answer :=
  match Location.parse path with
  | .ok location => .ofOutcome (r.site.dispatch location.path)
  | .error _ => .notFound

/-- Whether a path begins with a slash, as those of all routes do. -/
def hasPath (uri : Uri) : Bool := uri.path.toList.head? == some '/'

/-- The answer to a request. -/
def answer (r : Router) (request : Request) : Answer :=
  if !hasPath request.uri then .noPath
  else if request.method = "GET" then r.get request.uri.path
  else if request.method = "HEAD" then (r.get request.uri.path).withoutBody
  else .methodNotAllowed

/-- The identifier of the response to a request. -/
def requestId (request : Request) : RequestId :=
  match request.headers.get? Headers.requestIdName with
  | some id => .given id
  | none => .generated

/-- The response to a request. -/
def handle (r : Router) (request : Request) : Response :=
  ⟨r.answer request, requestId request⟩

/-- What is recorded while a request is answered: one visit, or none. -/
def samples (r : Router) (request : Request) : List Metrics.Sample :=
  if hasPath request.uri && (request.method == "GET" || request.method == "HEAD") then
    match Location.parse request.uri.path with
    | .ok location => [(r.site.visit location.path).sample]
    | .error _ => []
  else []

end Router

end PageRouter.Http
