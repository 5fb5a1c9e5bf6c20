import Mathlib.Data.List.Nodup
import PageRouter.Proofs.Site.Pages
import PageRouter.Proofs.Site.Start

/-!
# Failures belong to routes

A site that was bound without a look at its configuration may fail to show a page: nobody has checked
that the parameters of a view are bound.  Whether it fails is settled by the route.  A match binds
the parameters that the pattern declares, whatever the path, and a view that fetches its parameters
in a fixed order fails for want of the first one that is not among them.

* `visit_cases`: the three ways in which a visit ends.
* `IsBound`: a site with a view behind each of its routes, as binding makes them.
* `IsBound.dispatch_eq_error_iff_wants`: a visit fails with what its route wants, and only then.
* `failure_belongs_to_route`: the main result, which also says that a failure is announced by the
  faults of the configuration.
-/

set_option autoImplicit false

namespace PageRouter.Site

variable {site : Site} {path : String} {m : RouteMatch}

/-! ## How a visit ends -/

/-- **A visit ends in one of three ways**: no route matches, the route that matches is shown, or it
could not be. -/
theorem visit_cases (site : Site) (path : String) :
    (site.table.resolve path = none ∧
        site.visit path = ⟨.ok (.noMatch path), ⟨Metrics.noRoute, .noMatch⟩⟩) ∨
      (∃ m s, site.table.resolve path = some m ∧ s.route = m.route.name ∧
        site.visit path = ⟨.ok (.rendered s), ⟨m.route.name, .rendered⟩⟩) ∨
      ∃ m e, site.table.resolve path = some m ∧ site.bodyOf m.route m.params = .error e ∧
        site.visit path = ⟨.error e, ⟨m.route.name, .failed⟩⟩ := by
  rw [visit]
  cases hm : site.table.resolve path with
  | none => exact .inl ⟨rfl, rfl⟩
  | some m =>
    refine .inr ?_
    simp only
    cases hbody : site.bodyOf m.route m.params with
    | ok body => exact .inl ⟨m, _, rfl, rfl, rfl⟩
    | error e => exact .inr ⟨m, e, rfl, hbody, rfl⟩

/-- A visit of a path that a route matches fails when that route has no body. -/
theorem dispatch_eq_error_iff (hm : site.table.resolve path = some m) {e : Failure} :
    site.dispatch path = .error e ↔ site.bodyOf m.route m.params = .error e := by
  rw [dispatch, visit, hm]
  cases hbody : site.bodyOf m.route m.params <;> simp [hbody]

/-- A path that a route matches is shown, if showing it does not fail. -/
theorem exists_rendered_iff (hm : site.table.resolve path = some m) :
    (∃ s, site.dispatch path = .ok (.rendered s)) ↔ ∀ e, site.dispatch path ≠ .error e := by
  rw [dispatch]
  rcases visit_cases site path with ⟨hnone, _⟩ | ⟨_, s, _, _, hvisit⟩ | ⟨_, e, _, _, hvisit⟩
  · exact absurd (hm.symm.trans hnone) (Option.some_ne_none m)
  · simp [hvisit]
  · simp [hvisit]

/-! ## Bound sites -/

/-- A site with a view behind each of its routes. -/
def IsBound (site : Site) : Prop := ∀ r ∈ site.table.routes, missingView? site.views r = none

theorem isBound_of_bind {table : RouteTable} {views : View.Registry}
    (h : bind table views = .ok site) : site.IsBound := by
  obtain ⟨rfl, hbound⟩ := bind_eq_ok_iff.1 h
  exact hbound

/-- The view behind a route is the one that stands under its key. -/
theorem IsBound.exists_find? (h : site.IsBound) {r : Route} (hr : r ∈ site.table.routes)
    {key : String} (hkey : r.target = .view key) :
    ∃ v, v ∈ site.views.views ∧ site.views.find? key = some v ∧ v.key = key := by
  have hmissing := h r hr
  rw [missingView?, hkey] at hmissing
  cases hfind : site.views.find? key with
  | none => simp [View.Registry.contains, hfind] at hmissing
  | some v =>
    have hv : (v.key == key) = true := List.find?_some (p := fun v : View => v.key == key) hfind
    exact ⟨v, List.mem_of_find?_eq_some hfind, rfl, beq_iff_eq.1 hv⟩

/-! ## What a route wants -/

/-- What a route fails with: its view, and the first name that the view fetches and the pattern does
not declare.  Nothing, if the pattern declares them all, or a fixed text is shown. -/
def wantOf? (views : View.Registry) (uses : View → List String) (r : Route) : Option Failure :=
  match r.target with
  | .text _ => none
  | .view key =>
    (views.find? key).bind fun v =>
      (View.firstUnbound? r.pattern.paramNames (uses v)).map fun name =>
        .render (.missingParam key name)

theorem wantOf?_of_view {views : View.Registry} {uses : View → List String} {r : Route}
    {key : String} {v : View} (hkey : r.target = .view key) (hfind : views.find? key = some v) :
    wantOf? views uses r = (View.firstUnbound? r.pattern.paramNames (uses v)).map fun name =>
      .render (.missingParam key name) := by
  rw [wantOf?, hkey]
  simp only [hfind, Option.bind_some]

variable {uses : View → List String}

/-- **A route fails with what it wants**, for whatever its pattern was matched with. -/
theorem IsBound.bodyOf_eq_error_iff (h : site.IsBound)
    (hviews : ∀ v ∈ site.views.views, v.FailsAsFetching (uses v)) {r : Route}
    (hr : r ∈ site.table.routes) {params : Params} (hnames : params.names = r.pattern.paramNames)
    {e : Failure} :
    site.bodyOf r params = .error e ↔ wantOf? site.views uses r = some e := by
  cases htarget : r.target with
  | text body => simp [bodyOf, wantOf?, htarget]
  | view key =>
    obtain ⟨v, hv, hfind, hkey⟩ := h.exists_find? hr htarget
    have hrender : ∀ e, v.render params = .error e ↔
        ∃ name, View.firstUnbound? params.names (uses v) = some name ∧
          e = .missingParam v.key name :=
      fun e => (hviews v hv).render_eq_error_iff
    rw [wantOf?_of_view htarget hfind, bodyOf, htarget, ← hnames]
    simp only [hfind]
    rw [hkey] at hrender
    cases hbody : v.render params with
    | ok markup =>
      have hnone : View.firstUnbound? params.names (uses v) = none := by
        refine Option.eq_none_iff_forall_ne_some.2 fun name hname => ?_
        have hfails := (hrender _).2 ⟨name, hname, rfl⟩
        rw [hbody] at hfails
        cases hfails
      simp [hnone]
    | error cause =>
      obtain ⟨name, hname, rfl⟩ := (hrender cause).1 hbody
      simp [hname, eq_comm]

/-- **A visit fails with what its route wants, and only then.** -/
theorem IsBound.dispatch_eq_error_iff_wants (h : site.IsBound)
    (hviews : ∀ v ∈ site.views.views, v.FailsAsFetching (uses v))
    (hm : site.table.resolve path = some m) {e : Failure} :
    site.dispatch path = .error e ↔ wantOf? site.views uses m.route = some e := by
  obtain ⟨hr, hmatch⟩ := RouteTable.mem_of_resolve hm
  rw [dispatch_eq_error_iff hm]
  exact h.bodyOf_eq_error_iff hviews hr (Pattern.names_of_match? hmatch)

/-- A bound site never lacks a view. -/
theorem IsBound.dispatch_ne_unbound (h : site.IsBound)
    (hviews : ∀ v ∈ site.views.views, v.FailsAsFetching (uses v)) (path : String)
    (cause : BindError) : site.dispatch path ≠ .error (.unbound cause) := by
  intro hfails
  cases hm : site.table.resolve path with
  | none =>
    rw [dispatch_of_resolve_eq_none hm] at hfails
    exact nomatch hfails
  | some m =>
    rw [h.dispatch_eq_error_iff_wants hviews hm, wantOf?] at hfails
    split at hfails
    · exact nomatch hfails
    · obtain ⟨v, _, hwant⟩ := Option.bind_eq_some_iff.1 hfails
      obtain ⟨name, _, hcause⟩ := Option.map_eq_some_iff.1 hwant
      exact nomatch hcause

/-! ## What the faults of a configuration say of it -/

/-- A route is told to want a parameter exactly when its view declares one that its pattern does
not, if no other route has its name. -/
theorem exists_unboundParam_iff {c : Config} {table : RouteTable} {views : View.Registry}
    (htable : RouteTable.ofDecls c.routes c.routing = .ok table)
    (hnames : (c.routes.map RouteDecl.name).Nodup) {r : Route} (hr : r ∈ table.routes)
    {key : String} (hkey : r.target = .view key) {v : View} (hfind : views.find? key = some v) :
    (∃ view param, .unboundParam r.name view param ∈ c.faults views) ↔
      ∃ name ∈ v.required, name ∉ r.pattern.paramNames := by
  obtain ⟨d, hd, hcompiles⟩ :=
    RouteTable.exists_compiles_of_mem (RouteTable.ofDecls_eq_ok_iff.1 htable).1 hr
  obtain ⟨hname, _, htarget, hparse⟩ := RouteDecl.compiles_iff.1 hcompiles
  simp only [Config.unboundParam_mem_faults_iff]
  constructor
  · rintro ⟨view, param, d', hd', hname', htarget', v', pattern, hfind', hparse', hwant⟩
    obtain rfl : d' = d := List.inj_on_of_nodup_map hnames hd' hd (hname'.trans hname)
    rw [htarget', hkey, Except.ok.injEq, Target.view.injEq] at htarget
    rw [htarget, hfind, Option.some.injEq] at hfind'
    rw [hparse', Except.ok.injEq] at hparse
    rw [hfind', ← hparse]
    exact ⟨param, hwant⟩
  · rintro ⟨name, hwant⟩
    exact ⟨key, name, d, hd, hname.symm, hkey ▸ htarget, v, r.pattern, hfind, hparse, hwant⟩

/-! ## The main result -/

/-- What is known of the failures of a site whose views fetch some names in order. -/
structure FailsByRoute (site : Site) (uses : View → List String) : Prop where
  /-- No view is missing. -/
  bound : ∀ path cause, site.dispatch path ≠ .error (.unbound cause)
  /-- A visit fails when the view fetches a name that the pattern does not declare, and the first
  such name is blamed. -/
  fails : ∀ path m key, site.table.resolve path = some m → m.route.target = .view key →
    ∃ v, site.views.find? key = some v ∧ v.key = key ∧
      ((∃ e, site.dispatch path = .error e) ↔ ∃ name ∈ uses v, name ∉ m.route.pattern.paramNames) ∧
      ∀ e, site.dispatch path = .error e ↔
        ∃ name, View.firstUnbound? m.route.pattern.paramNames (uses v) = some name ∧
          e = .render (.missingParam key name)
  /-- A visit of a path that a route matches shows a screen, if it does not fail. -/
  shown : ∀ path m, site.table.resolve path = some m →
    ((∃ s, site.dispatch path = .ok (.rendered s)) ↔ ∀ e, site.dispatch path ≠ .error e)
  /-- Two visits of one route are both shown, or fail alike. -/
  alike : ∀ path path' m m', site.table.resolve path = some m → site.table.resolve path' = some m' →
    m.route = m'.route →
      ((∃ s, site.dispatch path = .ok (.rendered s)) ↔
          ∃ s, site.dispatch path' = .ok (.rendered s)) ∧
        ∀ e, site.dispatch path = .error e ↔ site.dispatch path' = .error e

theorem IsBound.failsByRoute (h : site.IsBound)
    (hviews : ∀ v ∈ site.views.views, v.FailsAsFetching (uses v)) : FailsByRoute site uses where
  bound := h.dispatch_ne_unbound hviews
  fails := by
    intro path m key hm hkey
    obtain ⟨v, _, hfind, hvkey⟩ := h.exists_find? (RouteTable.mem_of_resolve hm).1 hkey
    have hfails : ∀ e, site.dispatch path = .error e ↔
        ∃ name, View.firstUnbound? m.route.pattern.paramNames (uses v) = some name ∧
          e = .render (.missingParam key name) := by
      intro e
      rw [h.dispatch_eq_error_iff_wants hviews hm, wantOf?_of_view hkey hfind,
        Option.map_eq_some_iff]
      simp only [eq_comm]
    refine ⟨v, hfind, hvkey, ?_, hfails⟩
    rw [← View.firstUnbound?_isSome_iff]
    simp only [hfails]
    constructor
    · rintro ⟨_, name, hname, _⟩
      exact ⟨name, hname⟩
    · rintro ⟨name, hname⟩
      exact ⟨_, name, hname, rfl⟩
  shown := fun _ _ hm => exists_rendered_iff hm
  alike := by
    intro path path' m m' hm hm' hroute
    have hfails : ∀ e, site.dispatch path = .error e ↔ site.dispatch path' = .error e := by
      intro e
      rw [h.dispatch_eq_error_iff_wants hviews hm, h.dispatch_eq_error_iff_wants hviews hm', hroute]
    refine ⟨?_, hfails⟩
    rw [exists_rendered_iff hm, exists_rendered_iff hm']
    simp only [ne_eq, hfails]

/-- **A failure belongs to the route and not to the path.**  In a site that was bound, of whatever
configuration, with views that fetch some names in order, a visit fails exactly when the view of
its route fetches a name that the pattern does not declare, always with the first such name; and
so two visits of one route both succeed or fail alike.  If the views fetch just what they declare,
and no two routes have one name, then a visit fails exactly when the configuration is told that its
route does not bind a parameter. -/
theorem failure_belongs_to_route {c : Config} {table : RouteTable} {views : View.Registry}
    (htable : RouteTable.ofDecls c.routes c.routing = .ok table)
    (hbind : bind table views = .ok site)
    (hviews : ∀ v ∈ views.views, v.FailsAsFetching (uses v)) :
    FailsByRoute site uses ∧
      ((∀ v ∈ views.views, ∀ name, name ∈ uses v ↔ name ∈ v.required) →
        (c.routes.map RouteDecl.name).Nodup →
          ∀ path m key, site.table.resolve path = some m → m.route.target = .view key →
            ((∃ e, site.dispatch path = .error e) ↔
              ∃ view param, .unboundParam m.route.name view param ∈ c.faults views)) := by
  have hbound := isBound_of_bind hbind
  obtain ⟨rfl, _⟩ := bind_eq_ok_iff.1 hbind
  have hfails := hbound.failsByRoute hviews
  refine ⟨hfails, fun hrequired hnames path m key hm hkey => ?_⟩
  have hr := (RouteTable.mem_of_resolve hm).1
  obtain ⟨v, hfind, _, hwants, _⟩ := hfails.fails path m key hm hkey
  rw [hwants, exists_unboundParam_iff htable hnames hr hkey hfind]
  simp only [hrequired v (List.mem_of_find?_eq_some hfind)]

/-- What the pages of `itemViews` fetch: the page that was added does so in an order of its own. -/
def itemUses (v : View) : List String := if v.key = "item" then ["id", "item"] else v.required

theorem itemUses_of_mem_standard {v : View} (h : v ∈ View.standard) : itemUses v = v.required := by
  have hkey : ∀ v ∈ View.standard, v.key ≠ "item" := by
    simp [View.standard, View.userGeneration, View.maker, View.book, View.heading, View.order]
  rw [itemUses, if_neg (hkey v h)]

theorem failsAsFetching_itemUses {v : View} (h : v ∈ itemViews.views) :
    v.FailsAsFetching (itemUses v) := by
  rcases List.mem_append.1 (View.Registry.mem_of_mem_ofList h) with h | h
  · rw [itemUses_of_mem_standard h]
    exact View.failsAsFetching_of_mem_standard h
  · rw [List.mem_singleton.1 h]
    exact View.failsAsFetching_listing _ _ _ _

/-- A route to a page that fetches two parameters, of which the pattern declares one. -/
def wantingConfig : Config where
  routes := [⟨"item", "/order/:id", false, some "item", none⟩]

/-- The table of that configuration. -/
def wantingTable : RouteTable where
  routes := [⟨"item", ⟨"/order/:id", [.literal "order", .param "id"]⟩, false, .view "item"⟩]
  caseSensitive := false

theorem failure_belongs_to_route_wantingConfig :
    RouteTable.ofDecls wantingConfig.routes wantingConfig.routing = .ok wantingTable ∧
      bind wantingTable itemViews = .ok ⟨wantingTable, itemViews⟩ ∧
      (∀ v ∈ itemViews.views, v.FailsAsFetching (itemUses v)) ∧
      (Site.mk wantingTable itemViews).dispatch "/ORDER/7/more" =
        .error (.render (.missingParam "item" "item")) ∧
      ∃ view param, .unboundParam "item" view param ∈ wantingConfig.faults itemViews := by
  have htable : RouteTable.ofDecls wantingConfig.routes wantingConfig.routing =
      .ok wantingTable := by decide +kernel
  have hbind : bind wantingTable itemViews = .ok ⟨wantingTable, itemViews⟩ :=
    bind_eq_ok_iff.2 ⟨rfl, by decide +kernel⟩
  have hviews : ∀ v ∈ itemViews.views, v.FailsAsFetching (itemUses v) :=
    fun v hv => failsAsFetching_itemUses hv
  have hrequired : ∀ v ∈ itemViews.views, ∀ name, name ∈ itemUses v ↔ name ∈ v.required := by
    intro v hv name
    rcases List.mem_append.1 (View.Registry.mem_of_mem_ofList hv) with hv | hv
    · rw [itemUses_of_mem_standard hv]
    · rw [List.mem_singleton.1 hv]
      simp [itemUses, itemPage, View.listing, or_comm]
  obtain ⟨hfails, hfaults⟩ := failure_belongs_to_route htable hbind hviews
  have hresolve : wantingTable.resolve "/ORDER/7/more" =
      some ⟨⟨"item", ⟨"/order/:id", [.literal "order", .param "id"]⟩, false, .view "item"⟩,
        ⟨[("id", "7")]⟩⟩ := by decide +kernel
  obtain ⟨v, hfind, hvkey, _, hblamed⟩ := hfails.fails _ _ "item" hresolve rfl
  have hdispatch : (Site.mk wantingTable itemViews).dispatch "/ORDER/7/more" =
      .error (.render (.missingParam "item" "item")) := by
    refine (hblamed _).2 ⟨"item", ?_, rfl⟩
    rw [itemUses, if_pos hvkey]
    decide
  refine ⟨htable, hbind, hviews, hdispatch, ?_⟩
  exact (hfaults hrequired (by decide) _ _ "item" hresolve rfl).1 ⟨_, hdispatch⟩

end PageRouter.Site
