import Mathlib.Data.List.Flatten
import PageRouter.Proofs.Config.Report
import PageRouter.Proofs.Route.Disjoint
import PageRouter.Proofs.Route.Order

/-!
# Routes under both ways of comparing letters

A table compares the literals of its routes letter for letter or up to the case of ASCII letters, and
so does the check for shadowed routes.  What agrees letter for letter agrees up to case, and from
this everything else follows: what a pattern matches strictly it matches loosely, with the same
parameters, and what it covers strictly it covers loosely.

* `Config.shadowedAt_sublist`: a route that is reported to be shadowed letter for letter is reported
  up to case.
* `RouteTable.IsFirst.exists_first_loosely`: the first place that matches loosely stands at or before
  the first that matches strictly.
* `strict_comparison_safe`: the main result.
-/

set_option autoImplicit false

namespace PageRouter

/-! ## Matching and covering -/

namespace Pattern

variable {caseSensitive : Bool}

theorem admitsLeading_loosely {segments : List Segment} {parts : List String}
    (h : admitsLeading caseSensitive segments parts = true) :
    admitsLeading false segments parts = true := by
  rw [admitsLeading_iff] at h ⊢
  refine ⟨h.1, fun i text hi => ?_⟩
  obtain ⟨part, hpart, hagree⟩ := h.2 i text hi
  exact ⟨part, hpart, Text.agree_false_of_agree hagree⟩

/-- What is bound does not depend on how literals compare. -/
theorem bindings?_loosely {segments : List Segment} {parts : List String}
    {bs : List (String × String)} (h : bindings? caseSensitive segments parts = some bs) :
    bindings? false segments parts = some bs := by
  have hadmits : admitsLeading caseSensitive segments parts = true := by
    rw [← isSome_bindings?, h]
    rfl
  have hsome := admitsLeading_loosely hadmits
  rw [← isSome_bindings?] at hsome
  obtain ⟨bs', hbs'⟩ := Option.isSome_iff_exists.1 hsome
  rw [hbs', eq_boundTo_of_bindings? h, eq_boundTo_of_bindings? hbs']

/-- **What a pattern matches letter for letter it matches up to case**, with the same
parameters. -/
theorem match?_loosely {p : Pattern} {path : String} {isExact : Bool} {params : Params}
    (h : p.match? path isExact caseSensitive = some params) :
    p.match? path isExact false = some params := by
  rw [match?] at h ⊢
  split at h
  · rename_i hfits
    obtain ⟨bs, hbs, rfl⟩ := Option.map_eq_some_iff.1 h
    rw [if_pos hfits, bindings?_loosely hbs]
    rfl
  · cases h

theorem Segment.covers_loosely {a b : Segment} (h : a.covers caseSensitive b = true) :
    a.covers false b = true := by
  cases a with
  | param _ => rfl
  | literal s =>
    cases b with
    | param _ => exact nomatch h
    | literal t => exact Text.agree_false_of_agree h

theorem coversLeading_loosely {as bs : List Segment}
    (h : coversLeading caseSensitive as bs = true) : coversLeading false as bs = true := by
  induction as generalizing bs with
  | nil => rfl
  | cons a as ih =>
    cases bs with
    | nil => exact nomatch h
    | cons b bs =>
      rw [coversLeading, Bool.and_eq_true] at h ⊢
      exact ⟨Segment.covers_loosely h.1, ih h.2⟩

/-- **What a pattern covers letter for letter it covers up to case.** -/
theorem covers_loosely {p later : Pattern} {isExact laterExact : Bool}
    (h : p.covers isExact later laterExact caseSensitive = true) :
    p.covers isExact later laterExact false = true := by
  rw [covers, Bool.and_eq_true] at h ⊢
  exact ⟨h.1, coversLeading_loosely h.2⟩

end Pattern

/-! ## Faults under both ways of comparing -/

namespace Config

variable {views : View.Registry} {caseSensitive : Bool} {before : List RouteDecl} {d : RouteDecl}

/-- A configuration with a way of comparing put in the place of its own. -/
def comparing (c : Config) (caseSensitive : Bool) : Config :=
  { c with routing := { c.routing with caseSensitive := caseSensitive } }

theorem shadows_loosely {e : RouteDecl} (h : shadows caseSensitive e d = true) :
    shadows false e d = true := by
  obtain ⟨pattern, hd, earlier, he, hcovers⟩ := shadows_eq_true_iff.1 h
  exact shadows_eq_true_iff.2 ⟨pattern, hd, earlier, he, Pattern.covers_loosely hcovers⟩

theorem IsCovered.loosely (h : IsCovered caseSensitive before d) : IsCovered false before d := by
  obtain ⟨pattern, hpattern, e, he, earlier, hearlier, hcovers⟩ := h
  exact ⟨pattern, hpattern, e, he, earlier, hearlier, Pattern.covers_loosely hcovers⟩

/-- **What is in order up to case is in order letter for letter.** -/
theorem IsInOrder.strictly {c : Config} (h : (c.comparing false).IsInOrder views) :
    (c.comparing true).IsInOrder views where
  timeout := h.timeout
  connections := h.connections
  bindAddress := h.bindAddress
  metricsAddress := h.metricsAddress
  routes := h.routes
  names := h.names
  sound := h.sound
  apart := fun pre d post hsplit hcovered => h.apart pre d post hsplit hcovered.loosely

/-- Told of a shadow is the name of the route, if some route before shadows it. -/
theorem filterMap_shadowReport (caseSensitive : Bool) (before : List RouteDecl) (d : RouteDecl) :
    (shadowReport caseSensitive before d).filterMap Fault.shadowed? =
      ((before.find? fun e => shadows caseSensitive e d).map fun _ => d.name).toList := by
  rw [shadowReport]
  cases before.find? fun e => shadows caseSensitive e d <;> rfl

/-- A route that is told to be shadowed letter for letter is told so up to case, though it may be by
an earlier one. -/
theorem filterMap_shadowReport_sublist (before : List RouteDecl) (d : RouteDecl) :
    ((shadowReport caseSensitive before d).filterMap Fault.shadowed?).Sublist
      ((shadowReport false before d).filterMap Fault.shadowed?) := by
  rw [filterMap_shadowReport, filterMap_shadowReport]
  cases hfind : before.find? fun e => shadows caseSensitive e d with
  | none => exact List.nil_sublist _
  | some e =>
    have hshadows : shadows caseSensitive e d = true :=
      List.find?_some (p := fun e => shadows caseSensitive e d) hfind
    have hloosely : (before.find? fun e => shadows false e d).isSome = true :=
      List.find?_isSome.2 ⟨e, List.mem_of_find?_eq_some hfind, shadows_loosely hshadows⟩
    obtain ⟨e', he'⟩ := Option.isSome_iff_exists.1 hloosely
    rw [he']
    exact List.Sublist.refl _

/-- The name told of a shadow in the block of the route at a place, if there is one. -/
def shadowedAt (c : Config) (views : View.Registry) (i : Nat) : List String :=
  (c.faultsAt views i).filterMap Fault.shadowed?

/-- The names of the shadowed routes, place by place. -/
theorem shadowed_eq_flatMap (c : Config) (views : View.Registry) :
    c.shadowed views = (List.range c.routes.length).flatMap (c.shadowedAt views) := by
  have hrange : c.rangeFaults.filterMap Fault.shadowed? = [] := by
    refine List.filterMap_eq_nil_iff.2 fun f hf => ?_
    rcases eq_of_mem_rangeFaults hf with rfl | rfl | rfl | rfl <;> rfl
  rw [shadowed, faults, List.filterMap_append, hrange, List.nil_append]
  by_cases hroutes : c.routes = []
  · rw [routeFaults, hroutes]
    rfl
  · rw [routeFaults_eq_flatMap hroutes, List.filterMap_flatMap]
    rfl

/-- **A route that is reported letter for letter is reported up to case.** -/
theorem shadowedAt_sublist (c : Config) (views : View.Registry) (i : Nat) :
    ((c.comparing true).shadowedAt views i).Sublist ((c.comparing false).shadowedAt views i) := by
  cases hd : c.routes[i]? with
  | none => simp [shadowedAt, faultsAt, blockAt, comparing, hd]
  | some d =>
    rw [shadowedAt, shadowedAt, faultsAt_of_getElem? (c := c.comparing true) hd,
      faultsAt_of_getElem? (c := c.comparing false) hd, faultsBehind_eq_reportOf,
      faultsBehind_eq_reportOf]
    simp only [reportOf, List.filterMap_append]
    exact (List.Sublist.refl _).append (filterMap_shadowReport_sublist _ d)

theorem shadowed_sublist (c : Config) (views : View.Registry) :
    ((c.comparing true).shadowed views).Sublist ((c.comparing false).shadowed views) := by
  rw [shadowed_eq_flatMap, shadowed_eq_flatMap]
  exact List.Sublist.flatMap_right _ fun i _ => shadowedAt_sublist c views i

end Config

/-! ## Tables under both ways of comparing -/

namespace RouteTable

/-- **The first place that matches up to case is no later one**, and at the same place the match is
the same. -/
theorem IsFirst.exists_first_loosely {routes : List Route} {path : String}
    {i : Fin routes.length} {m : RouteMatch} (hi : IsFirst ⟨routes, true⟩ path i m) :
    ∃ (j : Fin routes.length) (m' : RouteMatch),
      IsFirst ⟨routes, false⟩ path j m' ∧ j ≤ i ∧ (j = i → m' = m) := by
  have hmatch : m.route.match? path false = some m.params := Pattern.match?_loosely hi.params
  have hmem : m.route ∈ routes := hi.route ▸ List.get_mem routes i
  obtain ⟨m', hm'⟩ := exists_resolve_of_match? (t := ⟨routes, false⟩) hmem
    (Option.isSome_iff_exists.2 ⟨_, hmatch⟩)
  obtain ⟨j, hj⟩ := resolve_eq_some_iff.1 hm'
  refine ⟨j, m', hj, ?_, ?_⟩
  · -- the route at `i` matches, so the first one that does stands no later
    by_contra hlt
    have hnone := hj.earlier i (not_le.1 hlt)
    rw [hi.route] at hnone
    exact nomatch hmatch.symm.trans hnone
  · rintro rfl
    have hroute : m'.route = m.route := hj.route.symm.trans hi.route
    have hparams := hj.params
    rw [hroute] at hparams
    obtain ⟨route', params'⟩ := m'
    obtain ⟨route, params⟩ := m
    obtain rfl : route' = route := hroute
    obtain rfl : params' = params := Option.some.inj (hparams.symm.trans hmatch)
    rfl

end RouteTable

/-! ## The main result -/

/-- **To compare letter for letter is safe.**  A configuration that is valid when letters compare up
to case is valid when they do not, and the routes reported to be shadowed, place by place and all in
all, are among those reported before.  A path that is resolved letter for letter is resolved up to
case as well, to a route that stands no later in the table, and at the same place with the same
parameters. -/
theorem strict_comparison_safe (c : Config) (views : View.Registry) (routes : List Route)
    (path : String) :
    ((c.comparing false).validate views = .ok () → (c.comparing true).validate views = .ok ()) ∧
      (∀ i, ((c.comparing true).shadowedAt views i).Sublist
        ((c.comparing false).shadowedAt views i)) ∧
      ((c.comparing true).shadowed views).Sublist ((c.comparing false).shadowed views) ∧
      ∀ m, RouteTable.resolve ⟨routes, true⟩ path = some m →
        ∃ (i j : Fin routes.length) (m' : RouteMatch),
          RouteTable.IsFirst ⟨routes, true⟩ path i m ∧
            RouteTable.IsFirst ⟨routes, false⟩ path j m' ∧
            RouteTable.resolve ⟨routes, false⟩ path = some m' ∧ j ≤ i ∧ (j = i → m' = m) := by
  refine ⟨fun hvalid => ?valid, c.shadowedAt_sublist views, c.shadowed_sublist views,
    fun m hm => ?resolved⟩
  case valid =>
    have horder := Config.faults_eq_nil_iff.1 (Config.validate_eq_ok_iff.1 hvalid)
    exact Config.validate_eq_ok_iff.2 (Config.faults_eq_nil_iff.2 horder.strictly)
  case resolved =>
    obtain ⟨i, hi⟩ := RouteTable.resolve_eq_some_iff.1 hm
    obtain ⟨j, m', hj, hle, heq⟩ := hi.exists_first_loosely
    exact ⟨i, j, m', hi, hj, RouteTable.resolve_eq_some_iff.2 ⟨j, hj⟩, hle, heq⟩

/-- A page with a name of its own in capitals, and one page for every name. -/
def pagesConfig : Config where
  routes := [⟨"home", "/HOME", true, none, some "Home"⟩, ⟨"page", "/:page", true, none, some "Page"⟩]

/-- The same two routes, compiled. -/
def pagesRoutes : List Route :=
  [⟨"home", .ofSegments [.literal "HOME"], true, .text "Home"⟩,
    ⟨"page", .ofSegments [.param "page"], true, .text "Page"⟩]

theorem strict_comparison_safe_pages :
    (pagesConfig.comparing false).validate .standard = .ok () ∧
      (pagesConfig.comparing true).validate .standard = .ok () ∧
      ∃ m, RouteTable.resolve ⟨pagesRoutes, true⟩ "/home" = some m ∧
        ∃ (i j : Fin pagesRoutes.length) (m' : RouteMatch),
          RouteTable.IsFirst ⟨pagesRoutes, true⟩ "/home" i m ∧
            RouteTable.IsFirst ⟨pagesRoutes, false⟩ "/home" j m' ∧
            RouteTable.resolve ⟨pagesRoutes, false⟩ "/home" = some m' ∧ j ≤ i ∧
              (j = i → m' = m) := by
  have hfaults : (pagesConfig.comparing false).faults .standard = [] := by decide +kernel
  have hvalid := Config.validate_eq_ok_iff.2 hfaults
  have hresolve : RouteTable.resolve ⟨pagesRoutes, true⟩ "/home" =
      some ⟨⟨"page", .ofSegments [.param "page"], true, .text "Page"⟩, ⟨[("page", "home")]⟩⟩ := by
    decide +kernel
  obtain ⟨hstrict, _, _, hplaces⟩ :=
    strict_comparison_safe pagesConfig .standard pagesRoutes "/home"
  exact ⟨hvalid, hstrict hvalid, _, hresolve, hplaces _ hresolve⟩

end PageRouter
