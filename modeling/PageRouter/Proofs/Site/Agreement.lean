import PageRouter.Proofs.Config.Blocks
import PageRouter.Proofs.Site.Start

/-!
# What a check finds, and what starting runs into

A configuration is looked through twice, by passes that know nothing of each other.  The check walks
all routes and collects every fault.  Starting compiles the routes and then binds them, stops at the
first thing that is wrong, and looks at the target of a route before its pattern, where the check
looks at the pattern first.

* `exists_ofDecls_eq_ok_iff`: there is a table exactly when no fault says that a route has no
  compiled form.
* `exists_blamed_of_ofDecls_eq_error`: where there is none, what compiling blames is a fault of the
  first route that has such a fault.
* `bind_eq_error_iff_find?`: what binding blames is the first unknown view in the list of faults.
* `start_agrees_with_faults`: so after a check nothing is left for starting to run into.
-/

set_option autoImplicit false

namespace PageRouter

/-- The fault that a configuration is told to have where a route cannot be bound to its view. -/
def Site.BindError.toFault : Site.BindError → Config.Fault
  | .unregisteredView route view => .unknownView route view

namespace Config

variable {c : Config} {views : View.Registry} {caseSensitive : Bool}

/-! ## Compiling -/

/-- **There is a table exactly when no fault says that a route has no compiled form.** -/
theorem exists_ofDecls_eq_ok_iff :
    (∃ table, RouteTable.ofDecls c.routes c.routing = .ok table) ↔
      ∀ f ∈ c.faults views, f.hindersTable = false := by
  constructor
  · rintro ⟨table, htable⟩ f hf
    have hroutes := (RouteTable.ofDecls_eq_ok_iff.1 htable).1
    rcases List.mem_append.1 hf with hf | hf
    · exact hindersTable_eq_false_of_mem_rangeFaults hf
    · rw [routeFaults] at hf
      split at hf
      · rw [List.mem_singleton.1 hf]
        rfl
      · obtain ⟨pre, d, post, hsplit, hbehind⟩ := (mem_faultsFrom_iff c.routes).1 hf
        have hd : d ∈ c.routes := by simp [hsplit]
        obtain ⟨r, _, hr⟩ := RouteTable.exists_mem_of_compiles hroutes hd
        exact hindersTable_eq_false_of_compiles hr hbehind
  · intro hfaults
    refine RouteTable.exists_ofDecls_eq_ok c.routing fun d hd => ?_
    cases hcompile : d.compile with
    | ok r => exact ⟨r, hcompile⟩
    | error e =>
      -- the route would have told so in its block
      obtain ⟨i, hi⟩ := List.getElem?_of_mem hd
      have hmem : e.toFault d.name ∈ c.faultsAt views i := by
        rw [faultsAt_of_getElem? hi]
        exact toFault_mem_faultsBehind hcompile
      have hfalse := hfaults _ (mem_faults_of_mem_faultsAt hmem)
      rw [hindersTable_toFault] at hfalse
      exact absurd hfalse (by decide)

/-- **What compiling blames is a fault of the first route that has no compiled form.** -/
theorem exists_blamed_of_ofDecls_eq_error {e : RouteError}
    (h : RouteTable.ofDecls c.routes c.routing = .error e) :
    ∃ i d, c.routes[i]? = some d ∧ (∀ j < i, ∀ f ∈ c.faultsAt views j, f.hindersTable = false) ∧
      e.toFault d.name ∈ c.faultsAt views i := by
  obtain ⟨pre, d, post, hsplit, hpre, hd⟩ :=
    RouteDecl.exists_first_of_compileAll_eq_error (RouteTable.ofDecls_eq_error_iff.1 h)
  have hget : c.routes[pre.length]? = some d := by simp [hsplit]
  refine ⟨pre.length, d, hget, fun j hj f hf => ?_, ?_⟩
  · have hgetj : c.routes[j]? = some pre[j] := by
      rw [hsplit, List.getElem?_append_left hj]
      exact List.getElem?_eq_getElem hj
    obtain ⟨r, hr⟩ := hpre pre[j] (List.getElem_mem hj)
    rw [faultsAt_of_getElem? hgetj] at hf
    exact hindersTable_eq_false_of_compiles hr hf
  · rw [faultsAt_of_getElem? hget]
    exact toFault_mem_faultsBehind hd

/-! ## Binding -/

/-- Whether a fault says that a view is unknown. -/
def Fault.isUnknownView : Fault → Bool
  | .unknownView .. => true
  | _ => false

theorem find?_isUnknownView_rangeFaults : c.rangeFaults.find? Fault.isUnknownView = none := by
  refine List.find?_eq_none.2 fun f hf => ?_
  rcases eq_of_mem_rangeFaults hf with rfl | rfl | rfl | rfl <;> exact Bool.false_ne_true

/-- The target of a compiled route is told to be an unknown view exactly when the view is
missing. -/
theorem find?_isUnknownView_targetFaults {d : RouteDecl} {r : Route} (h : d.Compiles r)
    (pattern? : Option Pattern) :
    (targetFaults views d pattern?).find? Fault.isUnknownView =
      (Site.missingView? views r).map Site.BindError.toFault := by
  obtain ⟨hname, _, htarget, _⟩ := RouteDecl.compiles_iff.1 h
  rw [Site.missingView?]
  cases hr : r.target with
  | text body =>
    rw [targetFaults_of_target_eq_text (htarget.trans (congrArg _ hr))]
    rfl
  | view key =>
    rw [targetFaults_of_target_eq_view (htarget.trans (congrArg _ hr))]
    cases hfind : views.find? key with
    | none => simp [View.Registry.contains, hfind, hname, Fault.isUnknownView, Site.BindError.toFault]
    | some view =>
      have hcontains : views.contains key = true := by simp [View.Registry.contains, hfind]
      simp only [hcontains, if_true, Option.map_none]
      cases pattern? with
      | none => rfl
      | some pattern =>
        refine List.find?_eq_none.2 fun f hf => ?_
        obtain ⟨_, _, rfl⟩ := List.mem_map.1 hf
        exact Bool.false_ne_true

theorem find?_isUnknownView_faultsOfRoute {names : List String} {earlier : List Reachable}
    {d : RouteDecl} {r : Route} (h : d.Compiles r) :
    (faultsOfRoute views caseSensitive names earlier d).find? Fault.isUnknownView =
      (Site.missingView? views r).map Site.BindError.toFault := by
  obtain ⟨_, _, _, hpattern⟩ := RouteDecl.compiles_iff.1 h
  have hname : (if d.name ∈ names then [Fault.duplicateRouteName d.name] else []).find?
      Fault.isUnknownView = none := by split <;> rfl
  rw [faultsOfRoute, hpattern, List.find?_append, hname, Option.none_or]
  simp only [List.find?_append, find?_isUnknownView_targetFaults h]
  cases shadowedBy caseSensitive earlier r.pattern d.exact <;> exact Option.or_none

/-- The first unknown view that a walk over compiled routes comes upon is the first missing one. -/
theorem find?_isUnknownView_faultsFrom {ds : List RouteDecl} {rs : List Route}
    (h : List.Forall₂ RouteDecl.Compiles ds rs) (names : List String) (earlier : List Reachable) :
    (faultsFrom views caseSensitive names earlier ds).find? Fault.isUnknownView =
      (rs.findSome? (Site.missingView? views)).map Site.BindError.toFault := by
  induction h generalizing names earlier with
  | nil => rfl
  | @cons d r ds rs hd _ ih =>
    rw [faultsFrom, List.find?_append, find?_isUnknownView_faultsOfRoute hd, ih, List.findSome?_cons]
    cases Site.missingView? views r <;> rfl

theorem find?_isUnknownView_faults {table : RouteTable}
    (h : RouteTable.ofDecls c.routes c.routing = .ok table) :
    (c.faults views).find? Fault.isUnknownView =
      (table.routes.findSome? (Site.missingView? views)).map Site.BindError.toFault := by
  have hroutes := (RouteTable.ofDecls_eq_ok_iff.1 h).1
  rw [faults, List.find?_append, find?_isUnknownView_rangeFaults, Option.none_or, routeFaults]
  split
  · rename_i hnil
    rw [hnil, List.forall₂_nil_left_iff] at hroutes
    rw [hroutes]
    rfl
  · exact find?_isUnknownView_faultsFrom hroutes [] []

end Config

namespace Site

variable {c : Config} {views : View.Registry}

/-- Binding goes by the first route whose view is missing. -/
theorem bind_eq {table : RouteTable} :
    bind table views =
      (table.routes.findSome? (missingView? views)).elim (.ok ⟨table, views⟩) .error := by
  rw [bind]
  cases table.routes.findSome? (missingView? views) <;> rfl

/-- **What binding blames is the first unknown view in the list of faults.** -/
theorem bind_eq_error_iff_find? {table : RouteTable} {e : BindError}
    (h : RouteTable.ofDecls c.routes c.routing = .ok table) :
    bind table views = .error e ↔
      (c.faults views).find? Config.Fault.isUnknownView = some e.toFault := by
  rw [bind_eq, Config.find?_isUnknownView_faults h]
  cases table.routes.findSome? (missingView? views) with
  | none => exact ⟨(nomatch ·), (nomatch ·)⟩
  | some missing =>
    obtain ⟨route, view⟩ := missing
    obtain ⟨route', view'⟩ := e
    simp [BindError.toFault]

theorem exists_bind_eq_ok_iff {table : RouteTable}
    (h : RouteTable.ofDecls c.routes c.routing = .ok table) :
    (∃ site, bind table views = .ok site) ↔ ∀ f ∈ c.faults views, f.isUnknownView = false := by
  have hfind : (∀ f ∈ c.faults views, f.isUnknownView = false) ↔
      (c.faults views).find? Config.Fault.isUnknownView = none := by
    rw [List.find?_eq_none]
    simp only [Bool.not_eq_true]
  rw [hfind, bind_eq, Config.find?_isUnknownView_faults h]
  cases table.routes.findSome? (missingView? views) <;> simp

/-! ## Starting -/

/-- A start that fails tells the faults of the configuration, and nothing else. -/
theorem eq_invalid_of_start_eq_error {e : StartError} (h : start c views = .error e) :
    e = .invalid (c.faults views) := by
  by_cases hfaults : c.faults views = []
  · obtain ⟨site, hsite⟩ := exists_start_of_faults_eq_nil hfaults
    rw [hsite] at h
    exact nomatch h
  · have hvalidate : c.validate views = .error (c.faults views) := by
      rw [Config.validate]
      split
      · rename_i hnil
        exact absurd hnil hfaults
      · rfl
    rw [start, hvalidate] at h
    exact (Except.error.inj h).symm

/-- **After a check nothing is left for starting to run into.**  There is a table exactly when no
fault of the configuration says that a route has no compiled form; otherwise compiling blames such a
fault of the first route that has one.  The table has the declared routes one by one, and it can be
bound exactly when no fault says that a view is unknown; otherwise binding blames the first unknown
view of the list.  So a site can be started exactly when the configuration is valid, and a start
that fails never does so by compiling or binding. -/
theorem start_agrees_with_faults (c : Config) (views : View.Registry) :
    ((∃ table, RouteTable.ofDecls c.routes c.routing = .ok table) ↔
        ∀ f ∈ c.faults views, f.hindersTable = false) ∧
      (∀ e, RouteTable.ofDecls c.routes c.routing = .error e →
        ∃ i d, c.routes[i]? = some d ∧
          (∀ j < i, ∀ f ∈ c.faultsAt views j, f.hindersTable = false) ∧
          e.toFault d.name ∈ c.faultsAt views i ∧ e.toFault d.name ∈ c.faults views) ∧
      (∀ table, RouteTable.ofDecls c.routes c.routing = .ok table →
        List.Forall₂ (fun d r => r.name = d.name ∧ r.exact = d.exact ∧ d.target = .ok r.target ∧
            Pattern.parse d.path = .ok r.pattern) c.routes table.routes ∧
          ((∃ site, bind table views = .ok site) ↔
            ∀ f ∈ c.faults views, f.isUnknownView = false) ∧
          ∀ route view, bind table views = .error (.unregisteredView route view) ↔
            (c.faults views).find? Config.Fault.isUnknownView = some (.unknownView route view)) ∧
      ((∃ site, start c views = .ok site) ↔ c.validate views = .ok ()) ∧
      ∀ e, start c views = .error e → e = .invalid (c.faults views) := by
  refine ⟨Config.exists_ofDecls_eq_ok_iff, ?blamed, ?bound, ?started,
    fun e he => eq_invalid_of_start_eq_error he⟩
  case blamed =>
    intro e he
    obtain ⟨i, d, hd, hfirst, hmem⟩ := Config.exists_blamed_of_ofDecls_eq_error he
    exact ⟨i, d, hd, hfirst, hmem, Config.mem_faults_of_mem_faultsAt hmem⟩
  case bound =>
    intro table htable
    refine ⟨?_, exists_bind_eq_ok_iff htable, fun route view => bind_eq_error_iff_find? htable⟩
    exact (RouteTable.ofDecls_eq_ok_iff.1 htable).1.imp fun d r hr => RouteDecl.compiles_iff.1 hr
  case started =>
    rw [Config.validate_eq_ok_iff]
    constructor
    · rintro ⟨site, hsite⟩
      exact (start_eq_ok_iff.1 hsite).1
    · exact exists_start_of_faults_eq_nil

/-- A route that is fine, one of which neither the pattern can be read nor the target be found, and
one whose view nobody knows. -/
def oddConfig : Config where
  routes :=
    [⟨"home", "/home", false, none, some "Welcome"⟩, ⟨"odd", "odd", false, none, none⟩,
      ⟨"lost", "/lost", false, some "lost", none⟩]

theorem start_agrees_oddConfig :
    RouteTable.ofDecls oddConfig.routes oddConfig.routing = .error (.missingTarget "odd") ∧
      (∃ i d, oddConfig.routes[i]? = some d ∧
        .missingTarget "odd" ∈ oddConfig.faultsAt .standard i) ∧
      start oddConfig .standard = .error (.invalid (oddConfig.faults .standard)) := by
  have hcompile : RouteTable.ofDecls oddConfig.routes oddConfig.routing =
      .error (.missingTarget "odd") := by decide +kernel
  obtain ⟨_, hblamed, _, _, hstart⟩ := start_agrees_with_faults oddConfig .standard
  obtain ⟨i, d, hd, _, hmem, _⟩ := hblamed _ hcompile
  refine ⟨hcompile, ⟨i, d, hd, hmem⟩, ?_⟩
  cases hs : start oddConfig .standard with
  | ok site =>
    have hfaults : oddConfig.faults .standard ≠ [] := by decide +kernel
    exact absurd (start_eq_ok_iff.1 hs).1 hfaults
  | error e => rw [hstart e hs]

end Site

end PageRouter
