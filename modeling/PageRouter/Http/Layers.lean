import PageRouter.Http.Router

/-!
# The layers around a handler

A router mounts one handler, for `GET` and for `HEAD`, at the root and at every path below it.  Whatever a
request comes to there, a refusal of its method or its path as much as the handler, is wrapped in the same
five layers: one names the request if it has no name, one traces it, one copies its name to the reply, and two
limit how many requests are served at once and how long each may take.  What comes out of the outermost layer
is then finished: its length is counted, and a `HEAD` is left without its body.

`Router.serve` is all of that, with the time and the source of names as parameters.  `Router.handle` is what
remains of it when nothing gets in the way of a request.
-/

set_option autoImplicit false

namespace PageRouter.Http

/-! ## Requests and replies on their way -/

/-- What a request is logged under. -/
structure Span where
  requestId : String
  method : String
  path : String
deriving DecidableEq, Repr

/-- The span of a request. -/
def Span.ofRequest (request : Request) : Span :=
  ⟨request.headers.shownId, request.method, request.uri.path⟩

/-- A request under its own identifier, or under a fresh one if it has none. -/
def Request.identified (request : Request) (fresh : String) : Request :=
  match request.headers.get? Headers.requestIdName with
  | some _ => request
  | none => { request with headers := ⟨request.headers.fields ++ [(Headers.requestIdName, fresh)]⟩ }

/-- What a reply says.  Its length is not counted yet. -/
structure Content where
  status : Nat
  contentType : Option String
  body : String
deriving DecidableEq, Repr

/-- What an answer says. -/
def Answer.content (a : Answer) : Content := ⟨a.status, a.contentType, a.body⟩

/-- A reply on its way to the client, with what was recorded on the way. -/
structure Reply where
  content : Content
  samples : List Metrics.Sample := []
  requestId : Option String := none
  spans : List Span := []
deriving DecidableEq, Repr

/-- A reply that goes under an identifier, unless it has one already. -/
def Reply.identified (reply : Reply) (id : Option String) : Reply :=
  { reply with requestId := reply.requestId.or id }

/-- What answers requests, or leaves them waiting for ever. -/
abbrev Service := Request → Option Reply

/-! ## Layers -/

/-- What a service depends on besides its requests. -/
structure Surroundings where
  /-- The identifier that is made for a request. -/
  fresh : String
  /-- Whether a time of so many seconds is over before a request is looked at. -/
  isOver : UInt64 → Bool

/-- A layer around a service. -/
inductive Layer where
  /-- Give up on a request when its time is over. -/
  | timeout (seconds : UInt64)
  /-- Serve only so many requests at once. -/
  | limit (permits : UInt64)
  /-- Copy the identifier of a request to its reply. -/
  | copyId
  /-- Log a request under its span. -/
  | trace
  /-- Give an identifier to a request that has none. -/
  | setId
deriving DecidableEq, Repr

/-- What is replied when the time of a request is over. -/
def Reply.late : Reply := { content := ⟨408, none, ""⟩ }

/-- A service within a layer.  A permit comes back when its request has been served, so that only a layer
without any permits leaves requests waiting for ever. -/
def Layer.wrap (world : Surroundings) (inner : Service) : Layer → Service
  | .timeout seconds => fun request => if world.isOver seconds then some .late else inner request
  | .limit permits => fun request => if permits = 0 then none else inner request
  | .copyId => fun request =>
    (inner request).map fun reply => reply.identified (request.headers.get? Headers.requestIdName)
  | .trace => fun request =>
    (inner request).map fun reply => { reply with spans := .ofRequest request :: reply.spans }
  | .setId => fun request => inner (request.identified world.fresh)

/-- A service within layers, the innermost first. -/
def wrapAll (world : Surroundings) (inner : Service) (layers : List Layer) : Service :=
  layers.foldl (Layer.wrap world) inner

/-- The layers of a configuration, the innermost first. -/
def layersOf (c : Config) : List Layer :=
  [.timeout c.timeouts.requestSecs, .limit c.listener.maxConnections, .copyId, .trace, .setId]

/-! ## Mounts -/

/-- Where the handler is mounted. -/
inductive Mount where
  /-- At the root itself. -/
  | root
  /-- At every path with something behind the first slash. -/
  | below
deriving DecidableEq, Repr

/-- Whether a path belongs to a mount. -/
def Mount.covers (path : String) : Mount → Bool
  | .root => path == "/"
  | .below =>
    match path.toList with
    | '/' :: _ :: _ => true
    | _ => false

/-- The mounts of a router. -/
def mounts : List Mount := [.root, .below]

/-- What a request comes to within the layers. -/
inductive Endpoint where
  | handler
  | wrongMethod
  | wrongPath
deriving DecidableEq, Repr

/-- What a request comes to, by its path and its method. -/
def endpointOf (request : Request) : Endpoint :=
  if mounts.any (Mount.covers request.uri.path) then
    if request.method = "GET" ∨ request.method = "HEAD" then .handler else .wrongMethod
  else .wrongPath

/-- The methods that are named to a client when it used another. -/
def Endpoint.allow : Endpoint → Option String
  | .handler => none
  | .wrongMethod => some "GET,HEAD"
  | .wrongPath => none

/-! ## Serving -/

/-- A response as it leaves, with what was recorded on the way. -/
structure Served where
  answer : Answer
  requestId : Option String
  samples : List Metrics.Sample
  spans : List Span
deriving DecidableEq, Repr

/-- Count the length of a reply, and take its body away for a `HEAD`. -/
def Reply.finish (reply : Reply) (method : String) (allow : Option String) : Served where
  answer :=
    ⟨reply.content.status, reply.content.contentType, reply.content.body.utf8ByteSize, allow,
      if method = "HEAD" then "" else reply.content.body⟩
  requestId := reply.requestId
  samples := reply.samples
  spans := reply.spans

namespace Router

/-- The handler of a router: it visits the location of a path. -/
def visitor (r : Router) (request : Request) : Reply :=
  match Location.parse request.uri.path with
  | .ok location =>
    let visit := r.site.visit location.path
    { content := (Answer.ofOutcome visit.outcome).content, samples := [visit.sample] }
  | .error _ => { content := Answer.notFound.content }

/-- What an endpoint of a router does. -/
def serviceAt (r : Router) : Endpoint → Service
  | .handler => fun request => some (r.visitor request)
  | .wrongMethod => fun _ => some { content := ⟨405, none, ""⟩ }
  | .wrongPath => fun _ => some { content := ⟨404, none, ""⟩ }

/-- The response of a router under a configuration, or none if the request waits for ever. -/
def serve (world : Surroundings) (c : Config) (r : Router) (request : Request) : Option Served :=
  let endpoint := endpointOf request
  (wrapAll world (r.serviceAt endpoint) (layersOf c) request).map fun reply =>
    reply.finish request.method endpoint.allow

end Router

/-- An identifier as it stands in a header, where a fresh one is at hand. -/
def RequestId.text (fresh : String) : RequestId → String
  | .given id => id
  | .generated => fresh

end PageRouter.Http
