import PageRouter.Http.Router
import PageRouter.Proofs.Config.Blocks
import PageRouter.Proofs.View.Fetching
import PageRouter.Site.Start

/-!
# What a started site can show

Starting a site checks a configuration, compiles it and binds it to views.  A configuration without
faults gets through all three, and then nothing is left that could go wrong: the check demands of
each pattern the parameters of its view, and a match binds the parameters of the pattern.

* `exists_start_of_faults_eq_nil`: a configuration without faults can be started.
* `dispatch_of_start`: a started site whose views fail only for want of a declared parameter has an
  outcome for each path.
* `never_fails_of_start`: so a server of that site never answers that showing a page failed.
-/

set_option autoImplicit false

namespace PageRouter

namespace Site

variable {c : Config} {views : View.Registry} {site : Site}

/-! ## Starting -/

/-- The three steps of a start. -/
theorem start_eq_ok_iff :
    start c views = .ok site ↔
      c.faults views = [] ∧ RouteTable.ofDecls c.routes c.routing = .ok site.table ∧
        bind site.table views = .ok site := by
  rw [start, Result.bind_eq_ok_iff]
  constructor
  · rintro ⟨_, hvalid, h⟩
    obtain ⟨t, ht, hb⟩ := Result.bind_eq_ok_iff.1 h
    have hbind := Result.mapError_eq_ok_iff.1 hb
    obtain ⟨rfl, _⟩ := bind_eq_ok_iff.1 hbind
    exact ⟨Config.validate_eq_ok_iff.1 (Result.mapError_eq_ok_iff.1 hvalid),
      Result.mapError_eq_ok_iff.1 ht, hbind⟩
  · rintro ⟨hfaults, ht, hbind⟩
    refine ⟨(), Result.mapError_eq_ok_iff.2 (Config.validate_eq_ok_iff.2 hfaults), ?_⟩
    exact Result.bind_eq_ok_iff.2 ⟨site.table, Result.mapError_eq_ok_iff.2 ht,
      Result.mapError_eq_ok_iff.2 hbind⟩

/-- A route of a table whose declaration is sound has a target that serves its pattern. -/
theorem serves_of_compiles {d : RouteDecl} {r : Route} (hd : Config.IsSound views d)
    (hr : d.Compiles r) : Config.Serves views r.pattern r.target := by
  obtain ⟨pattern, target, hpattern, htarget, hserves⟩ := hd
  obtain ⟨_, _, ht, hp⟩ := RouteDecl.compiles_iff.1 hr
  rw [hpattern] at hp
  rw [htarget] at ht
  rw [← Except.ok.inj hp, ← Except.ok.inj ht]
  exact hserves

theorem missingView?_eq_none_of_serves {r : Route}
    (h : Config.Serves views r.pattern r.target) : missingView? views r = none := by
  rw [missingView?]
  cases hr : r.target with
  | text body => rfl
  | view key =>
    rw [hr] at h
    obtain ⟨view, hfind, _⟩ := h
    simp [View.Registry.contains, hfind]

/-- **A configuration without faults can be started.** -/
theorem exists_start_of_faults_eq_nil (h : c.faults views = []) :
    ∃ site, start c views = .ok site := by
  obtain ⟨t, ht⟩ := Config.exists_ofDecls_of_faults_eq_nil h
  refine ⟨⟨t, views⟩, start_eq_ok_iff.2 ⟨h, ht, bind_eq_ok_iff.2 ⟨rfl, fun r hr => ?_⟩⟩⟩
  obtain ⟨d, hd, hcompiles⟩ :=
    RouteTable.exists_compiles_of_mem (RouteTable.ofDecls_eq_ok_iff.1 ht).1 hr
  exact missingView?_eq_none_of_serves
    (serves_of_compiles (Config.isSound_of_faults_eq_nil h hd) hcompiles)

/-- The routes of a started site have targets that serve their patterns. -/
theorem serves_of_start (h : start c views = .ok site) {r : Route} (hr : r ∈ site.table.routes) :
    Config.Serves site.views r.pattern r.target := by
  obtain ⟨hfaults, ht, hbind⟩ := start_eq_ok_iff.1 h
  obtain ⟨hsite, _⟩ := bind_eq_ok_iff.1 hbind
  obtain ⟨d, hd, hcompiles⟩ :=
    RouteTable.exists_compiles_of_mem (RouteTable.ofDecls_eq_ok_iff.1 ht).1 hr
  rw [hsite]
  exact serves_of_compiles (Config.isSound_of_faults_eq_nil hfaults hd) hcompiles

end Site

/-! ## Visiting -/

namespace Site

variable {c : Config} {views : View.Registry} {site : Site}

/-- A target that serves its pattern has a body for whatever the pattern binds. -/
theorem exists_bodyOf_of_serves {r : Route} {params : Params}
    (hviews : ∀ v ∈ site.views.views, v.FailsOnlyForWant)
    (hserves : Config.Serves site.views r.pattern r.target)
    (hnames : params.names = r.pattern.paramNames) : ∃ body, site.bodyOf r params = .ok body := by
  rw [bodyOf]
  cases hr : r.target with
  | text body => exact ⟨body, rfl⟩
  | view key =>
    rw [hr] at hserves
    obtain ⟨view, hfind, hrequired⟩ := hserves
    have hview := hviews view (List.mem_of_find?_eq_some hfind)
    have hbound : ∀ name ∈ view.required, name ∈ params.names := hnames ▸ hrequired
    obtain ⟨markup, hmarkup⟩ := hview.exists_render hbound
    exact ⟨markup.html, by simp [hfind, hmarkup]⟩

/-- A started site shows a screen at each path that a route matches, and has nothing at the
others. -/
theorem dispatch_of_start (hviews : ∀ v ∈ views.views, v.FailsOnlyForWant)
    (h : start c views = .ok site) (path : String) :
    (∃ screen, site.dispatch path = .ok (.rendered screen)) ∨
      site.dispatch path = .ok (.noMatch path) := by
  obtain ⟨_, _, hbind⟩ := start_eq_ok_iff.1 h
  obtain ⟨hsite, _⟩ := bind_eq_ok_iff.1 hbind
  cases hresolve : site.table.resolve path with
  | none => exact .inr (dispatch_of_resolve_eq_none hresolve)
  | some m =>
    obtain ⟨hm, hmatch⟩ := RouteTable.mem_of_resolve hresolve
    have hsiteViews : ∀ v ∈ site.views.views, v.FailsOnlyForWant := by
      rw [hsite]
      exact hviews
    obtain ⟨body, hbody⟩ := exists_bodyOf_of_serves hsiteViews (serves_of_start h hm)
      (Pattern.names_of_match? hmatch)
    refine .inl ⟨⟨m.route.name, viewKey? m.route.target, m.params, body⟩, ?_⟩
    simp only [dispatch, visit, hresolve, hbody]

end Site

/-! ## Serving -/

namespace Http.Router

theorem status_ofOutcome_ne_failed (outcome : Outcome) :
    (Answer.ofOutcome (.ok outcome)).status ≠ 500 := by
  cases outcome <;>
    simp [Answer.ofOutcome, Answer.ofScreen, Answer.notFound, Answer.html, Answer.plain,
      Answer.ofBody]

theorem status_get_ne_failed {r : Router}
    (h : ∀ path, ∃ outcome, r.site.dispatch path = .ok outcome) (path : String) :
    (r.get path).status ≠ 500 := by
  cases hl : Location.parse path with
  | error fault => simp [Router.get, hl, Answer.notFound, Answer.plain, Answer.ofBody]
  | ok location =>
    obtain ⟨outcome, ho⟩ := h location.path
    simp only [Router.get, hl, ho]
    exact status_ofOutcome_ne_failed outcome

/-- A router whose site has an outcome for every path never answers that showing it failed. -/
theorem status_answer_ne_failed {r : Router}
    (h : ∀ path, ∃ outcome, r.site.dispatch path = .ok outcome) (request : Request) :
    (r.answer request).status ≠ 500 := by
  have hget := status_get_ne_failed h request.uri.path
  simp only [Router.answer]
  split
  · simp [Answer.noPath, Answer.bare]
  · split
    · exact hget
    · split
      · simpa only [Answer.withoutBody] using hget
      · simp [Answer.methodNotAllowed, Answer.bare]

end Http.Router

namespace Site

variable {c : Config} {views : View.Registry} {site : Site}

/-- **A started site never fails.**  With views that fail only for want of a parameter they declare,
as the standard pages do, a site that could be started has an outcome for every path, and a server
never has to answer that showing a page failed. -/
theorem never_fails_of_start (hviews : ∀ v ∈ views.views, v.FailsOnlyForWant)
    (h : start c views = .ok site) :
    (∀ path, (∃ screen, site.dispatch path = .ok (.rendered screen)) ∨
        site.dispatch path = .ok (.noMatch path)) ∧
      (∀ request, ((Http.Router.mk site).handle request).answer.status ≠ 500) ∧
      ∀ v ∈ View.standard, v.FailsOnlyForWant := by
  have hdispatch := dispatch_of_start hviews h
  refine ⟨hdispatch, fun request => Http.Router.status_answer_ne_failed (fun path => ?_) request,
    fun v hv => View.failsOnlyForWant_of_mem_standard hv⟩
  rcases hdispatch path with ⟨screen, hscreen⟩ | hnone
  · exact ⟨_, hscreen⟩
  · exact ⟨_, hnone⟩

/-- A page that fetches its parameters in another order than it declares them. -/
def itemPage : View := .listing "item" ["item", "id"] ["id", "item"] "Item"

/-- The standard pages and one more. -/
def itemViews : View.Registry := .ofList (View.standard ++ [itemPage])

/-- A single route, to the page that was added. -/
def itemConfig : Config where
  routes := [⟨"item", "/order/:id/item/:item", true, some "item", none⟩]

theorem failsOnlyForWant_of_mem_itemViews {v : View} (h : v ∈ itemViews.views) :
    v.FailsOnlyForWant := by
  rcases List.mem_append.1 (View.Registry.mem_of_mem_ofList h) with h | h
  · exact View.failsOnlyForWant_of_mem_standard h
  · rw [List.mem_singleton.1 h]
    exact View.failsOnlyForWant_listing (by decide)

theorem never_fails_itemConfig :
    (∀ v ∈ itemViews.views, v.FailsOnlyForWant) ∧
      ∃ site, start itemConfig itemViews = .ok site ∧
        ∀ path, (∃ screen, site.dispatch path = .ok (.rendered screen)) ∨
          site.dispatch path = .ok (.noMatch path) := by
  have hviews : ∀ v ∈ itemViews.views, v.FailsOnlyForWant :=
    fun v hv => failsOnlyForWant_of_mem_itemViews hv
  have hfaults : itemConfig.faults itemViews = [] := by decide +kernel
  obtain ⟨site, hsite⟩ := exists_start_of_faults_eq_nil hfaults
  exact ⟨hviews, site, hsite, (never_fails_of_start hviews hsite).1⟩

end Site

end PageRouter
