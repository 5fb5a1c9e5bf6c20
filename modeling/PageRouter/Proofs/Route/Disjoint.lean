import PageRouter.Route.Table

/-!
# Tables in which the order does not matter

A table gives the first route that matches.  Where no path is matched by two routes
(`RouteTable.IsDisjoint`), it gives the one that does, and its routes may stand in any order.
-/

set_option autoImplicit false

namespace PageRouter.RouteTable

variable {t t' : RouteTable} {path : String}

/-- Whether no path is matched by two routes of a table. -/
def IsDisjoint (t : RouteTable) : Prop :=
  ∀ path, ∀ r ∈ t.routes, ∀ r' ∈ t.routes,
    (r.match? path t.caseSensitive).isSome = true →
      (r'.match? path t.caseSensitive).isSome = true → r = r'

/-- Some route is resolved to where some route matches. -/
theorem exists_resolve_of_match? {r : Route} (hr : r ∈ t.routes)
    (hm : (r.match? path t.caseSensitive).isSome = true) : ∃ m, t.resolve path = some m := by
  cases h : t.resolve path with
  | some m => exact ⟨m, rfl⟩
  | none =>
    rw [resolve_eq_none_iff.1 h r hr] at hm
    exact nomatch hm

/-- **A table without overlaps resolves to whatever route matches.** -/
theorem IsDisjoint.resolve_eq_some_iff (h : t.IsDisjoint) {m : RouteMatch} :
    t.resolve path = some m ↔
      m.route ∈ t.routes ∧ m.route.match? path t.caseSensitive = some m.params := by
  refine ⟨mem_of_resolve, fun ⟨hr, hm⟩ => ?_⟩
  have hsome : (m.route.match? path t.caseSensitive).isSome = true := by rw [hm]; rfl
  obtain ⟨m', hresolve⟩ := exists_resolve_of_match? hr hsome
  obtain ⟨hr', hm'⟩ := mem_of_resolve hresolve
  have hsome' : (m'.route.match? path t.caseSensitive).isSome = true := by rw [hm']; rfl
  have hroute : m'.route = m.route := h path m'.route hr' m.route hr hsome' hsome
  rw [hroute, hm] at hm'
  have hparams : m'.params = m.params := (Option.some.inj hm').symm
  rw [hresolve, Option.some.injEq]
  cases m
  cases m'
  cases hroute
  cases hparams
  rfl

theorem IsDisjoint.perm (h : t.IsDisjoint) (hroutes : t'.routes.Perm t.routes)
    (hcase : t'.caseSensitive = t.caseSensitive) : t'.IsDisjoint := by
  intro path r hr r' hr' hm hm'
  rw [hcase] at hm hm'
  exact h path r (hroutes.mem_iff.1 hr) r' (hroutes.mem_iff.1 hr') hm hm'

/-- **Routes without overlaps may stand in any order.** -/
theorem IsDisjoint.resolve_perm (h : t.IsDisjoint) (hroutes : t'.routes.Perm t.routes)
    (hcase : t'.caseSensitive = t.caseSensitive) (path : String) :
    t'.resolve path = t.resolve path := by
  refine Option.ext fun m => ?_
  rw [(h.perm hroutes hcase).resolve_eq_some_iff,
    h.resolve_eq_some_iff, hroutes.mem_iff, hcase]

end PageRouter.RouteTable
