import PageRouter.Config.Faults
import PageRouter.Route.Compile

/-!
# Which faults a configuration has

`Config.faults` walks the routes and carries along what the routes so far leave behind.  Here it is
put route by route: the faults of the routes are those that each route has behind the routes before
it (`mem_faultsFrom_iff`).  What these are depends on three readings of the route that do not know of
each other: its name among the names before it, its pattern, and its target (`mem_faultsBehind_iff`).

From that follow what a configuration without faults looks like (`Config.IsSound`,
`isSound_of_faults_eq_nil`), and which routes are reported to be shadowed (`mem_shadowed_iff`).
-/

set_option autoImplicit false

namespace PageRouter.Config

variable {views : View.Registry} {caseSensitive : Bool}

/-! ## Route by route -/

/-- The faults of a route behind others. -/
def faultsBehind (views : View.Registry) (caseSensitive : Bool) (before : List RouteDecl)
    (d : RouteDecl) : List Fault :=
  faultsOfRoute views caseSensitive (before.map RouteDecl.name).reverse
    (before.filterMap Reachable.ofDecl?) d

/-- **One step of the walk**, with some routes behind it. -/
theorem faultsFrom_cons (before : List RouteDecl) (d : RouteDecl) (ds : List RouteDecl) :
    faultsFrom views caseSensitive (before.map RouteDecl.name).reverse
        (before.filterMap Reachable.ofDecl?) (d :: ds) =
      faultsBehind views caseSensitive before d ++
        faultsFrom views caseSensitive ((before ++ [d]).map RouteDecl.name).reverse
          ((before ++ [d]).filterMap Reachable.ofDecl?) ds := by
  have hnames : d.name :: (before.map RouteDecl.name).reverse =
      ((before ++ [d]).map RouteDecl.name).reverse := by simp
  have hearlier : before.filterMap Reachable.ofDecl? ++ (Reachable.ofDecl? d).toList =
      (before ++ [d]).filterMap Reachable.ofDecl? := by
    rw [List.filterMap_append]
    cases h : Reachable.ofDecl? d <;> simp [h]
  rw [faultsFrom, hnames, hearlier]
  rfl

/-- A walk that has some routes behind it finds what each route has behind them and the routes that
come in between. -/
theorem mem_faultsFrom_iff_behind {f : Fault} (before ds : List RouteDecl) :
    f ∈ faultsFrom views caseSensitive (before.map RouteDecl.name).reverse
        (before.filterMap Reachable.ofDecl?) ds ↔
      ∃ pre d post, ds = pre ++ d :: post ∧
        f ∈ faultsBehind views caseSensitive (before ++ pre) d := by
  induction ds generalizing before with
  | nil => simp [faultsFrom]
  | cons d ds ih =>
    rw [faultsFrom_cons, List.mem_append, ih]
    constructor
    · rintro (h | ⟨pre, e, post, rfl, h⟩)
      · exact ⟨[], d, ds, rfl, by simpa using h⟩
      · exact ⟨d :: pre, e, post, rfl, by simpa using h⟩
    · rintro ⟨pre, e, post, hds, h⟩
      cases pre with
      | nil =>
        obtain ⟨rfl, rfl⟩ := List.cons.inj hds
        exact .inl (by simpa using h)
      | cons p pre =>
        obtain ⟨rfl, rfl⟩ := List.cons.inj hds
        exact .inr ⟨pre, e, post, rfl, by simpa using h⟩

theorem mem_faultsFrom_iff {f : Fault} (ds : List RouteDecl) :
    f ∈ faultsFrom views caseSensitive [] [] ds ↔
      ∃ pre d post, ds = pre ++ d :: post ∧ f ∈ faultsBehind views caseSensitive pre d :=
  mem_faultsFrom_iff_behind [] ds

/-! ## What stands where -/

theorem eq_of_mem_rangeFaults {c : Config} {f : Fault} (h : f ∈ c.rangeFaults) :
    f = .zeroTimeout ∨ f = .zeroMaxConnections ∨ f = .invalidBindAddress c.listener.bindAddress ∨
      f = .invalidMetricsAddress c.observability.metricsAddress := by
  simp only [rangeFaults, List.mem_append] at h
  rcases h with ((h | h) | h) | h <;> split at h <;>
    simp only [List.mem_singleton, List.not_mem_nil] at h <;> simp [h]

/-- The pattern of a route, if it can be read. -/
def patternOf? (d : RouteDecl) : Option Pattern := (Pattern.parse d.path).toOption

/-- **The faults of a route behind others**: a name that is taken, a pattern that cannot be read,
those of its target, and an earlier route that covers it. -/
theorem mem_faultsBehind_iff {before : List RouteDecl} {d : RouteDecl} {f : Fault} :
    f ∈ faultsBehind views caseSensitive before d ↔
      (d.name ∈ before.map RouteDecl.name ∧ f = .duplicateRouteName d.name) ∨
      (∃ fault, Pattern.parse d.path = .error fault ∧ f = .invalidPattern d.name fault) ∨
      f ∈ targetFaults views d (patternOf? d) ∨
      ∃ pattern e, Pattern.parse d.path = .ok pattern ∧
        shadowedBy caseSensitive (before.filterMap Reachable.ofDecl?) pattern d.exact = some e ∧
        f = .shadowedRoute d.name e.name := by
  have hname : f ∈ (if d.name ∈ (before.map RouteDecl.name).reverse then
      [Fault.duplicateRouteName d.name] else []) ↔
        d.name ∈ before.map RouteDecl.name ∧ f = .duplicateRouteName d.name := by
    by_cases h : d.name ∈ before.map RouteDecl.name
    · rw [if_pos (List.mem_reverse.2 h), List.mem_singleton]
      exact ⟨fun hf => ⟨h, hf⟩, fun hf => hf.2⟩
    · rw [if_neg (mt List.mem_reverse.1 h)]
      exact ⟨fun hf => absurd hf List.not_mem_nil, fun hf => absurd hf.1 h⟩
  rw [faultsBehind, faultsOfRoute, List.mem_append, hname, patternOf?]
  refine or_congr_right ?_
  cases hparse : Pattern.parse d.path with
  | error fault => simp [Except.toOption]
  | ok pattern =>
    cases hshadow : shadowedBy caseSensitive (before.filterMap Reachable.ofDecl?) pattern d.exact <;>
      simp [hshadow, Except.toOption]

/-! ## Configurations without faults -/

/-- Whether a target can be shown for a pattern: a fixed text, or a registered view all of whose
parameters the pattern binds. -/
def Serves (views : View.Registry) (pattern : Pattern) : Target → Prop
  | .text _ => True
  | .view key => ∃ view, views.find? key = some view ∧
      ∀ name ∈ view.required, name ∈ pattern.paramNames

/-- Whether a declared route can be compiled, and its target be shown for whatever its pattern
matches. -/
def IsSound (views : View.Registry) (d : RouteDecl) : Prop :=
  ∃ pattern target, Pattern.parse d.path = .ok pattern ∧ d.target = .ok target ∧
    Serves views pattern target

theorem exists_serves_of_targetFaults_eq_nil {d : RouteDecl} {pattern : Pattern}
    (h : targetFaults views d (some pattern) = []) :
    ∃ target, d.target = .ok target ∧ Serves views pattern target := by
  rw [targetFaults] at h
  rw [RouteDecl.target]
  cases hview : d.view with
  | none =>
    cases htext : d.text with
    | none => simp [hview, htext] at h
    | some body => exact ⟨.text body, rfl, trivial⟩
  | some key =>
    cases htext : d.text with
    | some body => simp [hview, htext] at h
    | none =>
      refine ⟨.view key, rfl, ?_⟩
      cases hfind : views.find? key with
      | none => simp [hview, htext, hfind] at h
      | some view =>
        refine ⟨view, hfind, fun name hname => ?_⟩
        simp only [hview, htext, hfind, List.map_eq_nil_iff, List.filter_eq_nil_iff] at h
        simpa using h name hname

theorem isSound_of_faultsBehind_eq_nil {before : List RouteDecl} {d : RouteDecl}
    (h : faultsBehind views caseSensitive before d = []) : IsSound views d := by
  rw [faultsBehind, faultsOfRoute, List.append_eq_nil_iff] at h
  have hrest := h.2
  split at hrest
  · exact absurd hrest (by simp)
  · rename_i pattern hpattern
    obtain ⟨target, htarget, hserves⟩ :=
      exists_serves_of_targetFaults_eq_nil (List.append_eq_nil_iff.1 hrest).1
    exact ⟨pattern, target, hpattern, htarget, hserves⟩

/-- Without faults, no route has any behind the routes before it. -/
theorem faultsBehind_eq_nil {c : Config} (h : c.faults views = []) {pre post : List RouteDecl}
    {d : RouteDecl} (hsplit : c.routes = pre ++ d :: post) :
    faultsBehind views c.routing.caseSensitive pre d = [] := by
  have hroutes := (List.append_eq_nil_iff.1 h).2
  rw [routeFaults] at hroutes
  split at hroutes
  · exact absurd hroutes (by simp)
  · refine List.eq_nil_iff_forall_not_mem.2 fun f hf => ?_
    exact List.eq_nil_iff_forall_not_mem.1 hroutes f
      ((mem_faultsFrom_iff c.routes).2 ⟨pre, d, post, hsplit, hf⟩)

/-- **Without faults, every route is sound.** -/
theorem isSound_of_faults_eq_nil {c : Config} (h : c.faults views = []) {d : RouteDecl}
    (hd : d ∈ c.routes) : IsSound views d := by
  obtain ⟨pre, post, hsplit⟩ := List.append_of_mem hd
  exact isSound_of_faultsBehind_eq_nil (faultsBehind_eq_nil h hsplit)

/-! ## Shadowed routes -/

/-- The route that a fault reports to be shadowed. -/
def Fault.shadowed? : Fault → Option String
  | .shadowedRoute route _ => some route
  | _ => none

/-- The names of the routes that are reported to be shadowed. -/
def shadowed (c : Config) (views : View.Registry) : List String :=
  (c.faults views).filterMap Fault.shadowed?

/-- A route that an earlier route leaves nothing to match. -/
def IsCovered (caseSensitive : Bool) (before : List RouteDecl) (d : RouteDecl) : Prop :=
  ∃ pattern, Pattern.parse d.path = .ok pattern ∧
    ∃ e ∈ before, ∃ earlier, Pattern.parse e.path = .ok earlier ∧
      earlier.covers e.exact pattern d.exact caseSensitive = true

theorem mem_filterMap_ofDecl?_iff {before : List RouteDecl} {r : Reachable} :
    r ∈ before.filterMap Reachable.ofDecl? ↔
      ∃ e ∈ before, Pattern.parse e.path = .ok r.pattern ∧ r = ⟨e.name, r.pattern, e.exact⟩ := by
  rw [List.mem_filterMap]
  refine exists_congr fun e => and_congr_right fun _ => ?_
  rw [Reachable.ofDecl?]
  cases hparse : Pattern.parse e.path with
  | error fault => simp
  | ok pattern =>
    constructor
    · rintro h
      rw [← Option.some.inj h]
      exact ⟨rfl, rfl⟩
    · rintro ⟨hp, hr⟩
      rw [Except.ok.inj hp, hr]

theorem isSome_shadowedBy_iff {before : List RouteDecl} {pattern : Pattern} {isExact : Bool} :
    (shadowedBy caseSensitive (before.filterMap Reachable.ofDecl?) pattern isExact).isSome = true ↔
      ∃ e ∈ before, ∃ earlier, Pattern.parse e.path = .ok earlier ∧
        earlier.covers e.exact pattern isExact caseSensitive = true := by
  rw [shadowedBy, List.find?_isSome]
  constructor
  · rintro ⟨r, hr, hcovers⟩
    obtain ⟨e, he, hparse, hreq⟩ := mem_filterMap_ofDecl?_iff.1 hr
    rw [hreq] at hcovers
    exact ⟨e, he, r.pattern, hparse, hcovers⟩
  · rintro ⟨e, he, earlier, hparse, hcovers⟩
    exact ⟨⟨e.name, earlier, e.exact⟩, mem_filterMap_ofDecl?_iff.2 ⟨e, he, hparse, rfl⟩, hcovers⟩

/-- No fault of a target reports a shadow. -/
theorem shadowed?_of_mem_targetFaults {d : RouteDecl} {pattern? : Option Pattern} {f : Fault}
    (h : f ∈ targetFaults views d pattern?) : f.shadowed? = none := by
  rw [targetFaults] at h
  split at h
  · rw [List.mem_singleton.1 h]
    rfl
  · rw [List.mem_singleton.1 h]
    rfl
  · exact absurd h List.not_mem_nil
  · split at h
    · rw [List.mem_singleton.1 h]
      rfl
    · exact absurd h List.not_mem_nil
    · obtain ⟨p, _, rfl⟩ := List.mem_map.1 h
      rfl

theorem exists_shadowed?_faultsBehind_iff {before : List RouteDecl} {d : RouteDecl}
    {name : String} :
    (∃ f ∈ faultsBehind views caseSensitive before d, f.shadowed? = some name) ↔
      d.name = name ∧ IsCovered caseSensitive before d := by
  constructor
  · rintro ⟨f, hf, hname⟩
    rcases mem_faultsBehind_iff.1 hf with ⟨_, rfl⟩ | ⟨_, _, rfl⟩ | hf | ⟨pattern, e, hparse, he, rfl⟩
    · cases hname
    · cases hname
    · rw [shadowed?_of_mem_targetFaults hf] at hname
      cases hname
    · exact ⟨Option.some.inj hname, pattern, hparse, isSome_shadowedBy_iff.1 (by rw [he]; rfl)⟩
  · rintro ⟨hname, pattern, hparse, hcovered⟩
    obtain ⟨e, he⟩ := Option.isSome_iff_exists.1 (isSome_shadowedBy_iff.2 hcovered)
    exact ⟨.shadowedRoute d.name e.name,
      mem_faultsBehind_iff.2 (.inr (.inr (.inr ⟨pattern, e, hparse, he, rfl⟩))),
      congrArg some hname⟩

/-- **A name is reported to be shadowed when a route of that name is covered by a route before
it.** -/
theorem mem_shadowed_iff {c : Config} {name : String} :
    name ∈ c.shadowed views ↔
      ∃ pre d post, c.routes = pre ++ d :: post ∧ d.name = name ∧
        IsCovered c.routing.caseSensitive pre d := by
  have hrange : ∀ f ∈ c.rangeFaults, f.shadowed? = none := by
    intro f hf
    rcases eq_of_mem_rangeFaults hf with rfl | rfl | rfl | rfl <;> rfl
  have hroutes : (∃ f ∈ c.routeFaults views, f.shadowed? = some name) ↔
      ∃ f ∈ faultsFrom views c.routing.caseSensitive [] [] c.routes,
        f.shadowed? = some name := by
    rw [routeFaults]
    split
    · rename_i h
      simp [h, faultsFrom, Fault.shadowed?]
    · rfl
  rw [shadowed, List.mem_filterMap]
  constructor
  · rintro ⟨f, hf, hname⟩
    rcases List.mem_append.1 hf with hf | hf
    · rw [hrange f hf] at hname
      exact absurd hname (by simp)
    · obtain ⟨g, hg, hgname⟩ := hroutes.1 ⟨f, hf, hname⟩
      obtain ⟨pre, d, post, hsplit, hg⟩ := (mem_faultsFrom_iff c.routes).1 hg
      exact ⟨pre, d, post, hsplit, exists_shadowed?_faultsBehind_iff.1 ⟨g, hg, hgname⟩⟩
  · rintro ⟨pre, d, post, hsplit, hcovered⟩
    have hbehind : ∃ f ∈ faultsBehind views c.routing.caseSensitive pre d,
        f.shadowed? = some name := exists_shadowed?_faultsBehind_iff.2 hcovered
    obtain ⟨g, hg, hgname⟩ := hbehind
    obtain ⟨f, hf, hname⟩ :=
      hroutes.2 ⟨g, (mem_faultsFrom_iff c.routes).2 ⟨pre, d, post, hsplit, hg⟩, hgname⟩
    exact ⟨f, List.mem_append_right _ hf, hname⟩

end PageRouter.Config
