import Mathlib.Data.List.Forall2
import PageRouter.Proofs.Result
import PageRouter.Route.Compile

/-!
# The table of declared routes, route by route

A list of declared routes is compiled exactly when each of its routes is, and the table then has the
compiled routes in the order of the declared ones.  Otherwise the first route that cannot be compiled
is blamed.
-/

set_option autoImplicit false

namespace PageRouter

namespace RouteDecl

/-! ## The target of a route -/

theorem target_eq_view_iff {d : RouteDecl} {key : String} :
    d.target = .ok (.view key) ↔ d.view = some key ∧ d.text = none := by
  rw [target]
  cases d.view <;> cases d.text <;> simp

theorem target_eq_text_iff {d : RouteDecl} {body : String} :
    d.target = .ok (.text body) ↔ d.view = none ∧ d.text = some body := by
  rw [target]
  cases d.view <;> cases d.text <;> simp

/-- A route is blamed for its target when it has none, and when it has two. -/
theorem target_eq_error_iff {d : RouteDecl} {e : RouteError} :
    d.target = .error e ↔
      (d.view = none ∧ d.text = none ∧ e = .missingTarget d.name) ∨
        (d.view.isSome ∧ d.text.isSome ∧ e = .ambiguousTarget d.name) := by
  rw [target]
  cases d.view <;> cases d.text <;> simp [eq_comm]

/-! ## Compiled routes -/

/-- A declared route, and the route that it is compiled to. -/
def Compiles (d : RouteDecl) (r : Route) : Prop := d.compile = .ok r

/-- What compiling a route takes from where. -/
theorem compiles_iff {d : RouteDecl} {r : Route} :
    d.Compiles r ↔ r.name = d.name ∧ r.exact = d.exact ∧ d.target = .ok r.target ∧
      Pattern.parse d.path = .ok r.pattern := by
  rw [Compiles, compile, Result.bind_eq_ok_iff]
  constructor
  · rintro ⟨target, htarget, h⟩
    obtain ⟨pattern, hpattern, rfl⟩ := Result.bind_pure_eq_ok_iff.1 h
    exact ⟨rfl, rfl, htarget, Result.mapError_eq_ok_iff.1 hpattern⟩
  · rintro ⟨hname, hexact, htarget, hpattern⟩
    refine ⟨r.target, htarget, Result.bind_pure_eq_ok_iff.2 ⟨r.pattern, ?_, ?_⟩⟩
    · exact Result.mapError_eq_ok_iff.2 hpattern
    · rw [← hname, ← hexact]

theorem Compiles.name_eq {d : RouteDecl} {r : Route} (h : d.Compiles r) : r.name = d.name :=
  (compiles_iff.1 h).1

/-- **Routes are compiled one by one, and keep their order.** -/
theorem compileAll_eq_ok_iff {ds : List RouteDecl} {rs : List Route} :
    compileAll ds = .ok rs ↔ List.Forall₂ Compiles ds rs := by
  induction ds generalizing rs with
  | nil =>
    rw [List.forall₂_nil_left_iff, compileAll]
    exact ⟨fun h => (Except.ok.inj h).symm, fun h => congrArg Except.ok h.symm⟩
  | cons d ds ih =>
    rw [List.forall₂_cons_left_iff, compileAll, Result.bind_eq_ok_iff]
    refine exists_congr fun r => ?_
    constructor
    · rintro ⟨hr, h⟩
      obtain ⟨tail, htail, rfl⟩ := Result.bind_pure_eq_ok_iff.1 h
      exact ⟨tail, hr, ih.1 htail, rfl⟩
    · rintro ⟨tail, hr, htail, rfl⟩
      exact ⟨hr, Result.bind_pure_eq_ok_iff.2 ⟨tail, ih.2 htail, rfl⟩⟩

/-- What a route that cannot be compiled is blamed for.  The target is looked at first. -/
theorem compile_eq_error_iff {d : RouteDecl} {e : RouteError} :
    d.compile = .error e ↔
      d.target = .error e ∨
        ∃ target fault, d.target = .ok target ∧ Pattern.parse d.path = .error fault ∧
          e = .badPattern fault := by
  rw [compile, Result.bind_eq_error_iff]
  refine or_congr_right (exists_congr fun target => ?_)
  rw [Result.bind_pure_eq_error_iff, Result.mapError_eq_error_iff]
  constructor
  · rintro ⟨htarget, fault, hpattern, rfl⟩
    exact ⟨fault, htarget, hpattern, rfl⟩
  · rintro ⟨fault, htarget, hpattern, rfl⟩
    exact ⟨htarget, fault, hpattern, rfl⟩

/-- **The first route that cannot be compiled is the one blamed.** -/
theorem exists_first_of_compileAll_eq_error {ds : List RouteDecl} {e : RouteError}
    (h : compileAll ds = .error e) :
    ∃ pre d post, ds = pre ++ d :: post ∧ (∀ p ∈ pre, ∃ r, p.Compiles r) ∧
      d.compile = .error e := by
  induction ds with
  | nil => exact nomatch h
  | cons d ds ih =>
    rw [compileAll, Result.bind_eq_error_iff] at h
    rcases h with hd | ⟨r, hr, h⟩
    · exact ⟨[], d, ds, rfl, fun p hp => absurd hp List.not_mem_nil, hd⟩
    · obtain ⟨pre, d', post, rfl, hpre, hd'⟩ := ih (Result.bind_pure_eq_error_iff.1 h)
      refine ⟨d :: pre, d', post, rfl, fun p hp => ?_, hd'⟩
      rcases List.mem_cons.1 hp with rfl | hp
      · exact ⟨r, hr⟩
      · exact hpre p hp

end RouteDecl

namespace RouteTable

theorem ofDecls_eq_error_iff {ds : List RouteDecl} {routing : Config.Routing} {e : RouteError} :
    ofDecls ds routing = .error e ↔ RouteDecl.compileAll ds = .error e :=
  Result.bind_pure_eq_error_iff

theorem ofDecls_eq_ok_iff {ds : List RouteDecl} {routing : Config.Routing} {t : RouteTable} :
    ofDecls ds routing = .ok t ↔
      List.Forall₂ RouteDecl.Compiles ds t.routes ∧ t.caseSensitive = routing.caseSensitive := by
  rw [ofDecls, Result.bind_pure_eq_ok_iff]
  constructor
  · rintro ⟨routes, hroutes, rfl⟩
    exact ⟨RouteDecl.compileAll_eq_ok_iff.1 hroutes, rfl⟩
  · rintro ⟨hroutes, hcase⟩
    exact ⟨t.routes, RouteDecl.compileAll_eq_ok_iff.2 hroutes, by rw [← hcase]⟩

/-- A list of routes each of which can be compiled has a table. -/
theorem exists_ofDecls_eq_ok {ds : List RouteDecl} (routing : Config.Routing)
    (h : ∀ d ∈ ds, ∃ r, d.Compiles r) : ∃ t, ofDecls ds routing = .ok t := by
  have hroutes : ∃ rs, List.Forall₂ RouteDecl.Compiles ds rs := by
    induction ds with
    | nil => exact ⟨[], .nil⟩
    | cons d ds ih =>
      obtain ⟨r, hr⟩ := h d List.mem_cons_self
      obtain ⟨rs, hrs⟩ := ih fun e he => h e (List.mem_cons_of_mem d he)
      exact ⟨r :: rs, .cons hr hrs⟩
  obtain ⟨rs, hrs⟩ := hroutes
  exact ⟨⟨rs, routing.caseSensitive⟩, ofDecls_eq_ok_iff.2 ⟨hrs, rfl⟩⟩

/-- A route of the table was compiled from a declared one. -/
theorem exists_compiles_of_mem {ds : List RouteDecl} {rs : List Route} {r : Route}
    (h : List.Forall₂ RouteDecl.Compiles ds rs) (hr : r ∈ rs) : ∃ d ∈ ds, d.Compiles r := by
  induction h with
  | nil => exact absurd hr List.not_mem_nil
  | @cons d r' ds rs hd _ ih =>
    rcases List.mem_cons.1 hr with rfl | hr
    · exact ⟨d, List.mem_cons_self, hd⟩
    · obtain ⟨e, he, hc⟩ := ih hr
      exact ⟨e, List.mem_cons_of_mem d he, hc⟩

/-- A declared route was compiled to a route of the table. -/
theorem exists_mem_of_compiles {ds : List RouteDecl} {rs : List Route} {d : RouteDecl}
    (h : List.Forall₂ RouteDecl.Compiles ds rs) (hd : d ∈ ds) : ∃ r ∈ rs, d.Compiles r := by
  induction h with
  | nil => exact absurd hd List.not_mem_nil
  | @cons d' r ds rs hr _ ih =>
    rcases List.mem_cons.1 hd with rfl | hd
    · exact ⟨r, List.mem_cons_self, hr⟩
    · obtain ⟨s, hs, hc⟩ := ih hd
      exact ⟨s, List.mem_cons_of_mem r hs, hc⟩

/-- A split of the declared routes splits the table at the same place. -/
theorem exists_split_of_decls {pre post : List RouteDecl} {d : RouteDecl} {rs : List Route}
    (h : List.Forall₂ RouteDecl.Compiles (pre ++ d :: post) rs) :
    ∃ before r after, rs = before ++ r :: after ∧ List.Forall₂ RouteDecl.Compiles pre before ∧
      d.Compiles r ∧ List.Forall₂ RouteDecl.Compiles post after := by
  induction pre generalizing rs with
  | nil =>
    obtain ⟨r, after, hr, hafter, rfl⟩ := List.forall₂_cons_left_iff.1 h
    exact ⟨[], r, after, rfl, .nil, hr, hafter⟩
  | cons e pre ih =>
    obtain ⟨s, rs, hs, htail, rfl⟩ := List.forall₂_cons_left_iff.1 h
    obtain ⟨before, r, after, rfl, hbefore, hr, hafter⟩ := ih htail
    exact ⟨s :: before, r, after, rfl, .cons hs hbefore, hr, hafter⟩

/-- A table has the names of the declared routes. -/
theorem map_name_eq {ds : List RouteDecl} {rs : List Route}
    (h : List.Forall₂ RouteDecl.Compiles ds rs) : rs.map Route.name = ds.map RouteDecl.name := by
  induction h with
  | nil => rfl
  | cons hd _ ih => rw [List.map_cons, List.map_cons, hd.name_eq, ih]

end RouteTable

end PageRouter
