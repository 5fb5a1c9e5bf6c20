import PageRouter.Http.Layers
import PageRouter.Proofs.Location

/-!
# What the layers around a handler do to a response

The layers give a response its identifier and may keep a request from the handler; they change nothing else.
What a layer adds depends on its place: the identifier of a request is on every reply, also on those that the
handler never sees, since no layer outside the one that copies it replies by itself.

* `Layer.wrap_cases`: what one layer can make of a request.
* `IsFaithful.wrap`, `IsFaithful.wrapAll`: one layer, and any number of them, put no identifier on a reply but
  that of its request.
* `isNamed_wrapAll`: where the layers outside the copying one reply nothing themselves, every reply has it.
* `told_wrapAll`: layers that let a request through leave alone what it is told.
* `any_covers_iff`: the two mounts cover the paths that begin with a slash, and no others.
* `exists_serve_eq`: every request is answered if there are permits, and a router then serves what it
  handles.
* `serve_conforms`: the main result.
-/

set_option autoImplicit false

namespace PageRouter.Http

/-! ## The identifier of a request -/

namespace Headers

variable {h : Headers} {name value : String}

/-- The value of a header is that of the first field of its name. -/
theorem get?_eq_some_iff :
    h.get? name = some value ↔
      ∃ before key after, h.fields = before ++ (key, value) :: after ∧
        Text.agree false key name = true ∧ ∀ f ∈ before, Text.agree false f.1 name = false := by
  simp only [get?, Option.map_eq_some_iff, List.find?_eq_some_iff_append, Bool.not_eq_true']
  constructor
  · rintro ⟨⟨key, _⟩, ⟨hkey, before, after, hfields, hbefore⟩, rfl⟩
    exact ⟨before, key, after, hfields, hkey, hbefore⟩
  · rintro ⟨before, key, after, hfields, hkey, hbefore⟩
    exact ⟨(key, value), ⟨hkey, before, after, hfields, hbefore⟩, rfl⟩

theorem get?_eq_none_iff : h.get? name = none ↔ ∀ f ∈ h.fields, Text.agree false f.1 name = false := by
  simp only [get?, Option.map_eq_none_iff, List.find?_eq_none, Bool.not_eq_true]

end Headers

namespace Request

variable {request : Request} {id : String}

/-- A request that has an identifier keeps it. -/
theorem identified_of_get? (h : request.headers.get? Headers.requestIdName = some id)
    (fresh : String) : request.identified fresh = request := by
  simp only [identified, h]

theorem get?_identified (request : Request) (fresh : String) :
    (request.identified fresh).headers.get? Headers.requestIdName =
      some ((request.headers.get? Headers.requestIdName).getD fresh) := by
  cases h : request.headers.get? Headers.requestIdName with
  | some id => rw [identified_of_get? h, h, Option.getD_some]
  | none =>
    simp only [identified, h, Option.getD_none]
    exact Headers.get?_eq_some_iff.2
      ⟨request.headers.fields, Headers.requestIdName, [], rfl, Text.agree_self _ _,
        Headers.get?_eq_none_iff.1 h⟩

end Request

/-! ## Which identifier a reply has -/

/-- A reply that goes under no identifier but that of its request, in the log as well. -/
structure Reply.IsFaithful (reply : Reply) (request : Request) (id : String) : Prop where
  ids : ∀ given ∈ reply.requestId, given = id
  spans : ∀ span ∈ reply.spans, span = .ofRequest request

/-- A service whose replies go under no identifier but that of their request. -/
def IsFaithful (s : Service) : Prop :=
  ∀ request reply id, s request = some reply →
    request.headers.get? Headers.requestIdName = some id → reply.IsFaithful request id

/-- A service whose replies all go under the identifier of their request. -/
def IsNamed (s : Service) : Prop :=
  ∀ request reply id, s request = some reply →
    request.headers.get? Headers.requestIdName = some id → reply.requestId = some id

variable {world : Surroundings} {s : Service}

/-- **What a layer makes of a request that has an identifier**: it replies by itself since the time is
over, or it passes on what comes from within, as it is, or identified, or traced. -/
theorem Layer.wrap_cases {layer : Layer} {request : Request} {reply : Reply} {id : String}
    (hreply : layer.wrap world s request = some reply)
    (hid : request.headers.get? Headers.requestIdName = some id) :
    (∃ seconds, layer = .timeout seconds ∧ reply = .late) ∨
      ∃ inner, s request = some inner ∧
        (reply = inner ∨ reply = inner.identified (some id) ∨
          reply = { inner with spans := .ofRequest request :: inner.spans }) := by
  cases layer with
  | timeout seconds =>
    simp only [Layer.wrap] at hreply
    split at hreply
    · exact .inl ⟨seconds, rfl, (Option.some.inj hreply).symm⟩
    · exact .inr ⟨reply, hreply, .inl rfl⟩
  | limit permits =>
    simp only [Layer.wrap] at hreply
    split at hreply
    · exact nomatch hreply
    · exact .inr ⟨reply, hreply, .inl rfl⟩
  | copyId =>
    obtain ⟨inner, hinner, rfl⟩ := Option.map_eq_some_iff.1 hreply
    exact .inr ⟨inner, hinner, .inr (.inl (by rw [hid]))⟩
  | trace =>
    obtain ⟨inner, hinner, rfl⟩ := Option.map_eq_some_iff.1 hreply
    exact .inr ⟨inner, hinner, .inr (.inr rfl)⟩
  | setId =>
    simp only [Layer.wrap, Request.identified_of_get? hid] at hreply
    exact .inr ⟨reply, hreply, .inl rfl⟩

/-- **No layer puts another identifier on a reply.** -/
theorem IsFaithful.wrap (h : IsFaithful s) (layer : Layer) : IsFaithful (layer.wrap world s) := by
  intro request reply id hreply hid
  rcases Layer.wrap_cases hreply hid with ⟨_, _, rfl⟩ | ⟨inner, hinner, hpassed⟩
  · exact ⟨fun given hgiven => (nomatch hgiven), fun span hspan => (nomatch hspan)⟩
  · have hfaithful := h request inner id hinner hid
    rcases hpassed with rfl | rfl | rfl
    · exact hfaithful
    · refine ⟨fun given hgiven => ?_, hfaithful.spans⟩
      rcases Option.or_eq_some_iff.1 hgiven with hgiven | ⟨_, hgiven⟩
      · exact hfaithful.ids given hgiven
      · exact (Option.some.inj hgiven).symm
    · refine ⟨hfaithful.ids, fun span hspan => ?_⟩
      rcases List.mem_cons.1 hspan with rfl | hspan
      · rfl
      · exact hfaithful.spans span hspan

theorem IsFaithful.wrapAll (h : IsFaithful s) (layers : List Layer) :
    IsFaithful (wrapAll world s layers) := by
  induction layers generalizing s with
  | nil => exact h
  | cons layer layers ih => exact ih (h.wrap layer)

/-- Copying the identifier puts it on every reply. -/
theorem IsFaithful.isNamed_copyId (h : IsFaithful s) : IsNamed (Layer.copyId.wrap world s) := by
  intro request reply id hreply hid
  obtain ⟨inner, hinner, rfl⟩ := Option.map_eq_some_iff.1 hreply
  have hids := (h request inner id hinner hid).ids
  rw [Reply.identified, hid]
  cases hinnerId : inner.requestId with
  | none => rfl
  | some given => rw [Option.some_or, hids given hinnerId]

/-- A layer that replies nothing itself leaves it there. -/
theorem IsNamed.wrap (h : IsNamed s) {layer : Layer} (hlayer : ∀ seconds, layer ≠ .timeout seconds) :
    IsNamed (layer.wrap world s) := by
  intro request reply id hreply hid
  rcases Layer.wrap_cases hreply hid with ⟨seconds, htimeout, _⟩ | ⟨inner, hinner, hpassed⟩
  · exact absurd htimeout (hlayer seconds)
  · have hnamed := h request inner id hinner hid
    rcases hpassed with rfl | rfl | rfl
    · exact hnamed
    · rw [Reply.identified, hnamed, Option.some_or]
    · exact hnamed

theorem IsNamed.wrapAll (h : IsNamed s) {layers : List Layer}
    (hlayers : ∀ layer ∈ layers, ∀ seconds, layer ≠ .timeout seconds) :
    IsNamed (wrapAll world s layers) := by
  induction layers generalizing s with
  | nil => exact h
  | cons layer layers ih =>
    exact ih (h.wrap (hlayers layer List.mem_cons_self))
      fun l hl => hlayers l (List.mem_cons_of_mem _ hl)

/-- **Every reply goes under the identifier of its request**, those of the layers themselves among them, if
the identifier is copied outside all layers that reply by themselves. -/
theorem isNamed_wrapAll (h : IsFaithful s) (inside : List Layer) {outside : List Layer}
    (houtside : ∀ layer ∈ outside, ∀ seconds, layer ≠ .timeout seconds) :
    IsNamed (wrapAll world s (inside ++ .copyId :: outside)) := by
  rw [Http.wrapAll, List.foldl_append, List.foldl_cons]
  exact (h.wrapAll inside).isNamed_copyId.wrapAll houtside

/-! ## What a request is told -/

/-- What a client is told, and what is recorded of that. -/
def Reply.told (reply : Reply) : Content × List Metrics.Sample := (reply.content, reply.samples)

/-- A service that tells a request the same whatever its headers are. -/
def IgnoresHeaders (s : Service) : Prop :=
  ∀ uri method headers headers',
    (s ⟨uri, method, headers⟩).map Reply.told = (s ⟨uri, method, headers'⟩).map Reply.told

/-- Whether a layer lets requests through to what is in it. -/
def Layer.LetsThrough (world : Surroundings) : Layer → Prop
  | .timeout seconds => world.isOver seconds = false
  | .limit permits => permits ≠ 0
  | .copyId => True
  | .trace => True
  | .setId => True

/-- A layer that lets requests through leaves alone what they are told. -/
theorem told_wrap (h : IgnoresHeaders s) {layer : Layer} (hlayer : layer.LetsThrough world)
    (request : Request) : (layer.wrap world s request).map Reply.told = (s request).map Reply.told := by
  cases layer with
  | timeout seconds =>
    have hover : world.isOver seconds = false := hlayer
    simp only [Layer.wrap, hover, Bool.false_eq_true, if_false]
  | limit permits =>
    have hpermits : permits ≠ 0 := hlayer
    simp only [Layer.wrap, if_neg hpermits]
  | copyId => exact Option.map_map ..
  | trace => exact Option.map_map ..
  | setId =>
    simp only [Layer.wrap, Request.identified]
    split
    · rfl
    · exact h _ _ _ _

theorem IgnoresHeaders.wrap (h : IgnoresHeaders s) {layer : Layer} (hlayer : layer.LetsThrough world) :
    IgnoresHeaders (layer.wrap world s) := by
  intro uri method headers headers'
  rw [told_wrap h hlayer, told_wrap h hlayer]
  exact h uri method headers headers'

/-- **Layers that let requests through leave alone what they are told.** -/
theorem told_wrapAll (h : IgnoresHeaders s) {layers : List Layer}
    (hlayers : ∀ layer ∈ layers, layer.LetsThrough world) (request : Request) :
    (wrapAll world s layers request).map Reply.told = (s request).map Reply.told := by
  induction layers generalizing s with
  | nil => rfl
  | cons layer layers ih =>
    have hlayer := hlayers layer List.mem_cons_self
    exact (ih (h.wrap hlayer) fun l hl => hlayers l (List.mem_cons_of_mem _ hl)).trans
      (told_wrap h hlayer request)

/-! ## Which paths are covered -/

/-- **The two mounts together cover the paths that begin with a slash.** -/
theorem any_covers_iff {path : String} :
    mounts.any (Mount.covers path) = true ↔ path.toList.head? = some '/' := by
  have hroot : path = "/" ↔ path.toList = ['/'] := String.toList_inj.symm
  simp only [mounts, List.any_cons, List.any_nil, Bool.or_false, Mount.covers, Bool.or_eq_true,
    beq_iff_eq, hroot]
  -- The root is covered by itself, and whatever has more than a slash by what is below it.
  match path.toList with
  | [] => simp
  | [c] => simp
  | c :: d :: cs =>
    by_cases hc : c = '/'
    · simp [hc]
    · simp [hc]

/-! ## Finished replies -/

/-- An answer that announces the length of its body. -/
def Answer.IsCounted (a : Answer) : Prop := a.contentLength = a.body.utf8ByteSize

theorem Answer.isCounted_ofOutcome (outcome : Except Site.Failure Outcome) :
    (ofOutcome outcome).IsCounted ∧ (ofOutcome outcome).allow = none := by
  match outcome with
  | .ok (.rendered _) => exact ⟨rfl, rfl⟩
  | .ok (.noMatch _) => exact ⟨rfl, rfl⟩
  | .error _ => exact ⟨rfl, rfl⟩

/-- Finishing a reply that says what an answer says gives that answer, without its body for a `HEAD`. -/
theorem Reply.answer_finish {reply : Reply} {a : Answer} (hcontent : reply.content = a.content)
    (ha : a.IsCounted) (method : String) :
    (reply.finish method a.allow).answer = if method = "HEAD" then a.withoutBody else a := by
  simp only [Reply.finish, hcontent, Answer.content, ← show a.contentLength = _ from ha]
  split <;> rfl

namespace Router

variable {c : Config} {r : Router} {request : Request}

/-! ## What an endpoint tells -/

theorem endpointOf_eq (request : Request) :
    endpointOf request =
      if hasPath request.uri then
        if request.method = "GET" ∨ request.method = "HEAD" then .handler else .wrongMethod
      else .wrongPath := by
  have hcovers : mounts.any (Mount.covers request.uri.path) = hasPath request.uri := by
    rw [Bool.eq_iff_iff, any_covers_iff, hasPath, beq_iff_eq]
  rw [endpointOf, hcovers]

theorem isCounted_get (r : Router) (path : String) :
    (r.get path).IsCounted ∧ (r.get path).allow = none := by
  rw [get]
  split
  · exact Answer.isCounted_ofOutcome _
  · exact ⟨rfl, rfl⟩

theorem content_visitor (r : Router) (request : Request) :
    (r.visitor request).content = (r.get request.uri.path).content := by
  rw [visitor, get]
  cases Location.parse request.uri.path with
  | ok location => rfl
  | error e => rfl

theorem samples_visitor (hpath : hasPath request.uri = true)
    (hmethod : request.method = "GET" ∨ request.method = "HEAD") :
    (r.visitor request).samples = r.samples request := by
  have hboth : (request.method == "GET" || request.method == "HEAD") = true := by simpa using hmethod
  rw [visitor, samples, hpath, hboth]
  cases Location.parse request.uri.path with
  | ok location => rfl
  | error e => rfl

/-- What a request is told, before it is finished, is the answer of the router. -/
theorem exists_told_serviceAt (r : Router) (request : Request) :
    ∃ a : Answer, a.IsCounted ∧ a.allow = (endpointOf request).allow ∧
      r.answer request = (if request.method = "HEAD" then a.withoutBody else a) ∧
      (r.serviceAt (endpointOf request) request).map Reply.told =
        some (a.content, r.samples request) := by
  rw [endpointOf_eq]
  by_cases hpath : hasPath request.uri = true
  · rw [if_pos hpath]
    by_cases hmethod : request.method = "GET" ∨ request.method = "HEAD"
    · obtain ⟨hcounted, hallow⟩ := isCounted_get r request.uri.path
      refine ⟨r.get request.uri.path, hcounted, ?_, ?_, ?_⟩
      · rw [if_pos hmethod, hallow, Endpoint.allow]
      · rcases hmethod with hget | hhead
        · simp [answer, hpath, hget]
        · simp [answer, hpath, hhead]
      · rw [if_pos hmethod, serviceAt, Option.map_some, Reply.told, content_visitor,
          samples_visitor hpath hmethod]
    · refine ⟨.methodNotAllowed, rfl, ?_, ?_, ?_⟩
      · rw [if_neg hmethod, Endpoint.allow]
        rfl
      · obtain ⟨hget, hhead⟩ := not_or.1 hmethod
        simp [answer, hpath, hget, hhead]
      · have hsamples : r.samples request = [] := by
          have hneither : (request.method == "GET" || request.method == "HEAD") = false := by
            simpa using hmethod
          rw [samples, hneither, Bool.and_false]
          rfl
        rw [if_neg hmethod, hsamples]
        rfl
  · have hnone : hasPath request.uri = false := by simpa using hpath
    refine ⟨.noPath, rfl, ?_, ?_, ?_⟩
    · rw [if_neg hpath]
      rfl
    · rw [answer, hnone]
      simp [Answer.noPath, Answer.bare, Answer.withoutBody]
    · have hsamples : r.samples request = [] := by rw [samples, hnone, Bool.false_and]; rfl
      rw [if_neg hpath, hsamples]
      rfl

theorem isFaithful_serviceAt (r : Router) (e : Endpoint) : IsFaithful (r.serviceAt e) := by
  intro request reply id hreply _
  have hbare : reply.requestId = none ∧ reply.spans = [] := by
    cases e with
    | handler =>
      rw [← Option.some.inj hreply, visitor]
      cases Location.parse request.uri.path with
      | ok location => exact ⟨rfl, rfl⟩
      | error e => exact ⟨rfl, rfl⟩
    | wrongMethod =>
      rw [← Option.some.inj hreply]
      exact ⟨rfl, rfl⟩
    | wrongPath =>
      rw [← Option.some.inj hreply]
      exact ⟨rfl, rfl⟩
  refine ⟨fun given hgiven => ?_, fun span hspan => ?_⟩
  · rw [hbare.1] at hgiven
    exact nomatch hgiven
  · rw [hbare.2] at hspan
    exact nomatch hspan

theorem ignoresHeaders_serviceAt (r : Router) (e : Endpoint) : IgnoresHeaders (r.serviceAt e) := by
  intro uri method headers headers'
  cases e with
  | handler => rfl
  | wrongMethod => rfl
  | wrongPath => rfl

/-! ## What is served -/

theorem text_requestId (request : Request) (fresh : String) :
    (requestId request).text fresh =
      (request.headers.get? Headers.requestIdName).getD fresh := by
  rw [requestId]
  split
  · rename_i id hid
    rw [hid, Option.getD_some, RequestId.text]
  · rename_i hid
    rw [hid, Option.getD_none, RequestId.text]

/-- **Everything that is served goes under the identifier of its request**, in the log as well, and
whether or not it came from the handler. -/
theorem requestId_of_serve {served : Served} (h : r.serve world c request = some served) :
    served.requestId = some ((requestId request).text world.fresh) ∧
      ∀ span ∈ served.spans, span = .ofRequest (request.identified world.fresh) := by
  obtain ⟨reply, hreply, rfl⟩ := Option.map_eq_some_iff.1 h
  -- The outermost layer has named the request, so that all others see it under an identifier.
  have hinside : wrapAll world (r.serviceAt (endpointOf request))
      ([.timeout c.timeouts.requestSecs, .limit c.listener.maxConnections] ++ .copyId :: [.trace])
      (request.identified world.fresh) = some reply := hreply
  have hfaithful := isFaithful_serviceAt r (endpointOf request)
  have hid := request.get?_identified world.fresh
  rw [text_requestId]
  refine ⟨isNamed_wrapAll hfaithful _ ?_ _ reply _ hinside hid,
    (hfaithful.wrapAll _ _ reply _ hinside hid).spans⟩
  intro layer hlayer seconds
  rw [List.mem_singleton.1 hlayer]
  exact nofun

/-- **A router serves what it handles**, when there is a permit and the time is not over. -/
theorem exists_serve_eq (hpermits : c.listener.maxConnections ≠ 0)
    (hover : world.isOver c.timeouts.requestSecs = false) (request : Request) :
    ∃ served, r.serve world c request = some served ∧
      served.answer = (r.handle request).answer ∧ served.samples = r.samples request := by
  obtain ⟨a, hcounted, hallow, hanswer, htold⟩ := exists_told_serviceAt r request
  have hthrough : ∀ layer ∈ layersOf c, layer.LetsThrough world := by
    simp [layersOf, Layer.LetsThrough, hover, hpermits]
  rw [← told_wrapAll (ignoresHeaders_serviceAt r _) hthrough] at htold
  obtain ⟨reply, hreply, htold⟩ := Option.map_eq_some_iff.1 htold
  obtain ⟨hcontent, hsamples⟩ := Prod.mk.inj htold
  refine ⟨reply.finish request.method (endpointOf request).allow, ?_, ?_, hsamples⟩
  · rw [serve, hreply, Option.map_some]
  · rw [← hallow, Reply.answer_finish hcontent hcounted, handle, hanswer]

/-! ## The main result -/

/-- What a router answers on one target under some headers, by the method that is used. -/
structure Conforms (world : Surroundings) (r : Router) (uri : Uri) (headers : Headers)
    (served : String → Served) : Prop where
  /-- These are the answers that the router handles requests with. -/
  handled : ∀ method, (served method).answer = (r.handle ⟨uri, method, headers⟩).answer
  /-- They go under the identifiers that it gives them. -/
  identified : ∀ method, (served method).requestId =
    some ((r.handle ⟨uri, method, headers⟩).requestId.text world.fresh)
  statuses : ∀ method, (served method).answer.status ∈ [200, 404, 405, 500]
  /-- A `GET` announces the length of its body in bytes. -/
  counted : (served "GET").answer.contentLength = (served "GET").answer.body.utf8ByteSize
  /-- A `HEAD` is answered as a `GET` is, without the body. -/
  bodiless : (served "HEAD").answer = { (served "GET").answer with body := "" }
  /-- Both visit the location of the path once. -/
  visited : ∃ location, Location.parse uri.path = .ok location ∧
    (served "GET").samples = [(r.site.visit location.path).sample] ∧
    (served "HEAD").samples = [(r.site.visit location.path).sample]
  /-- No other method is allowed, and none of them visits anything. -/
  refused : ∀ method, method ≠ "GET" → method ≠ "HEAD" →
    (served method).answer.status = 405 ∧ (served method).answer.allow = some "GET,HEAD" ∧
      (served method).samples = []
  /-- The first identifier among the headers is on the response, as it was given. -/
  kept : ∀ method before name id after, headers.fields = before ++ (name, id) :: after →
    Text.agree false name Headers.requestIdName = true →
    (∀ f ∈ before, Text.agree false f.1 Headers.requestIdName = false) →
    (served method).requestId = some id
  /-- Without one, it is the one that was made. -/
  made : (∀ f ∈ headers.fields, Text.agree false f.1 Headers.requestIdName = false) →
    ∀ method, (served method).requestId = some world.fresh

variable {uri : Uri}

theorem hasPath_of_head? (h : uri.path.toList.head? = some '/') : hasPath uri = true := by
  rw [hasPath, h]
  rfl

theorem exists_location_of_head? (h : uri.path.toList.head? = some '/') :
    ∃ location, Location.parse uri.path = .ok location := by
  obtain ⟨cs, hcs⟩ := List.head?_eq_some_iff.1 h
  exact ⟨_, Location.parse_of_toList hcs rfl⟩

theorem status_ofOutcome (outcome : Except Site.Failure Outcome) :
    (Answer.ofOutcome outcome).status ∈ [200, 404, 405, 500] := by
  match outcome with
  | .ok (.rendered _) => exact (by decide : 200 ∈ [200, 404, 405, 500])
  | .ok (.noMatch _) => exact (by decide : 404 ∈ [200, 404, 405, 500])
  | .error _ => exact (by decide : 500 ∈ [200, 404, 405, 500])

theorem status_answer (h : hasPath request.uri = true) :
    (r.answer request).status ∈ [200, 404, 405, 500] := by
  have hget : (r.get request.uri.path).status ∈ [200, 404, 405, 500] := by
    rw [get]
    split
    · exact status_ofOutcome _
    · decide
  rw [answer, h, Bool.not_true, if_neg Bool.false_ne_true]
  split
  · exact hget
  · split
    · simpa only [Answer.withoutBody] using hget
    · decide

/-- What a router handles conforms, with what it records. -/
theorem conforms_of_serve {served : String → Served} {headers : Headers}
    (hrooted : uri.path.toList.head? = some '/')
    (hserve : ∀ method, r.serve world c ⟨uri, method, headers⟩ = some (served method))
    (hanswer : ∀ method, (served method).answer = (r.handle ⟨uri, method, headers⟩).answer)
    (hsamples : ∀ method, (served method).samples = r.samples ⟨uri, method, headers⟩) :
    Conforms world r uri headers served := by
  have hhas : hasPath uri = true := hasPath_of_head? hrooted
  obtain ⟨location, hlocation⟩ := exists_location_of_head? hrooted
  have hget : (served "GET").answer = r.get uri.path := by
    rw [hanswer, handle, answer, hhas]
    rfl
  have hhead : (served "HEAD").answer = (r.get uri.path).withoutBody := by
    rw [hanswer, handle, answer, hhas]
    rfl
  have hid : ∀ method, (served method).requestId =
      some ((headers.get? Headers.requestIdName).getD world.fresh) := by
    intro method
    rw [(requestId_of_serve (hserve method)).1, text_requestId]
  constructor
  case handled => exact hanswer
  case identified => exact fun method => (requestId_of_serve (hserve method)).1
  case statuses =>
    intro method
    rw [hanswer]
    exact status_answer hhas
  case counted =>
    rw [hget]
    exact (isCounted_get r uri.path).1
  case bodiless => rw [hhead, hget, Answer.withoutBody]
  case visited =>
    refine ⟨location, hlocation, ?_, ?_⟩
    · rw [hsamples, samples, hhas, hlocation]
      rfl
    · rw [hsamples, samples, hhas, hlocation]
      rfl
  case refused =>
    intro method hnotGet hnotHead
    have hrefused : (served method).answer = .methodNotAllowed := by
      rw [hanswer, handle, answer, hhas]
      simp [hnotGet, hnotHead]
    refine ⟨?_, ?_, ?_⟩
    · rw [hrefused, Answer.methodNotAllowed, Answer.bare]
    · rw [hrefused, Answer.methodNotAllowed, Answer.bare]
    · simp [hsamples, samples, hnotGet, hnotHead]
  case kept =>
    intro method before name id after hfields hname hbefore
    have hfirst := Headers.get?_eq_some_iff.2 ⟨before, name, after, hfields, hname, hbefore⟩
    rw [hid, hfirst, Option.getD_some]
  case made =>
    intro hnone method
    rw [hid, Headers.get?_eq_none_iff.2 hnone, Option.getD_none]

/-- **Methods and headers.**  For any site, checked or not, a configuration with some time and with some
connections, no more than can be counted, has a router.  It answers every request for a path that begins
with a slash: a `GET` with the length of its body, a `HEAD` with the same and no body, and every other
method with a refusal that visits nothing; and each of these responses goes under the first identifier that
the request gave. -/
theorem serve_conforms (site : Site) (htime : 0 < c.timeouts.requestSecs)
    (hpermits : 0 < c.listener.maxConnections)
    (hadmitted : c.listener.maxConnections.toNat ≤ maxPermits)
    (hclock : ∀ seconds, 0 < seconds → world.isOver seconds = false)
    (hrooted : uri.path.toList.head? = some '/') (headers : Headers) :
    ∃ router, build c site = .ok router ∧ router.site = site ∧
      ∃ served : String → Served,
        (∀ method, router.serve world c ⟨uri, method, headers⟩ = some (served method)) ∧
          Conforms world router uri headers served := by
  have hover := hclock c.timeouts.requestSecs htime
  have hsome : c.listener.maxConnections ≠ 0 := Ne.symm (UInt64.ne_of_lt hpermits)
  choose served hserve hanswer hsamples using fun method =>
    exists_serve_eq (r := ⟨site⟩) hsome hover ⟨uri, method, headers⟩
  exact ⟨⟨site⟩, if_pos hadmitted, rfl, served, hserve,
    conforms_of_serve hrooted hserve hanswer hsamples⟩

/-- Surroundings in which only no time at all is over at once. -/
def idle (fresh : String) : Surroundings := ⟨fresh, fun seconds => seconds == 0⟩

/-- A site that shows one text everywhere, with a letter of two bytes. -/
def citySite : Site where
  table := ⟨[⟨"city", ⟨"/", []⟩, false, .text "Zürich"⟩], false⟩
  views := .standard

/-- A target with slashes to spare. -/
def townTarget : Uri := ⟨"//town//"⟩

/-- Headers that identify a request twice. -/
def twiceIdentified : Headers :=
  ⟨[("accept", "text/html"), ("X-Request-Id", "first"), ("x-request-id", "second")]⟩

theorem serve_conforms_twiceIdentified :
    (∀ seconds, 0 < seconds → (idle "made").isOver seconds = false) ∧
      townTarget.path.toList.head? = some '/' ∧
      ∃ (router : Router) (served : String → Served), build .standard citySite = .ok router ∧
        (∀ method, router.serve (idle "made") .standard ⟨townTarget, method, twiceIdentified⟩ =
          some (served method)) ∧
        (∀ method, (served method).requestId = some "first") ∧
        (served "GET").answer.status = 200 ∧
        (served "GET").answer.contentLength = (served "GET").answer.body.length + 1 ∧
        (served "HEAD").answer.contentLength = (served "GET").answer.contentLength ∧
        (served "PUT").answer.status = 405 ∧ (served "PUT").samples = [] := by
  have hclock : ∀ seconds, 0 < seconds → (idle "made").isOver seconds = false :=
    fun seconds hpositive => beq_false_of_ne (Ne.symm (UInt64.ne_of_lt hpositive))
  have hrooted : townTarget.path.toList.head? = some '/' := by decide
  obtain ⟨router, hbuild, hsite, served, hserve, hconforms⟩ :=
    serve_conforms (c := .standard) citySite (by decide) (by decide) (by decide) hclock hrooted
      twiceIdentified
  have hget : (served "GET").answer =
      ((Router.mk citySite).handle ⟨townTarget, "GET", twiceIdentified⟩).answer := by
    rw [hconforms.handled, ← hsite]
  have hrefused := hconforms.refused "PUT" (by decide) (by decide)
  refine ⟨hclock, hrooted, router, served, hbuild, hserve, fun method => ?_, ?_, ?_, ?_, hrefused.1,
    hrefused.2.2⟩
  · exact hconforms.kept method [("accept", "text/html")] "X-Request-Id" "first"
      [("x-request-id", "second")] rfl (by decide) (by decide)
  · rw [hget]
    decide +kernel
  · rw [hget]
    decide +kernel
  · rw [hconforms.bodiless]

end Router

end PageRouter.Http
