import Mathlib.Logic.Equiv.Basic
import Mathlib.Order.Fin.Basic
import PageRouter.Proofs.Pattern.Matching
import PageRouter.Route.Table

/-!
# Where the order of routes counts

A table gives the route at the first place that matches.  Which of two routes stands first makes a
difference only on a path that both of them match (`Route.Overlaps`).  So routes may be moved about
as long as no two of them that overlap change their order, and every path is still resolved to the
same route, at its new place.

Overlapping is not transitive, so a rearrangement of this kind is in general not made of exchanges of
neighbours that were next to each other from the start.  The proof looks at one path at a time: of the
routes that match it, any two overlap, and so all of them keep their order.

* `resolve_eq_some_iff`: a path is resolved to the first route that matches it.
* `KeepsOverlaps.isFirst`: a rearrangement takes the first place to the first place.
* `Route.not_overlaps_of_literal`: routes that ask for different texts at one place do not overlap.
* `order_counts_in_overlaps`: the main result.
-/

set_option autoImplicit false

namespace PageRouter

/-! ## Routes that match a common path -/

/-- Whether there is a path that two routes match. -/
def Route.Overlaps (caseSensitive : Bool) (r s : Route) : Prop :=
  ∃ path, (r.match? path caseSensitive).isSome = true ∧ (s.match? path caseSensitive).isSome = true

namespace Route

variable {caseSensitive : Bool} {r s : Route}

theorem Overlaps.symm (h : r.Overlaps caseSensitive s) : s.Overlaps caseSensitive r := by
  obtain ⟨path, hr, hs⟩ := h
  exact ⟨path, hs, hr⟩

/-- The text that a route has at some place agrees with what a path that it matches has there. -/
theorem exists_agree_of_match? {path text : String} {i : Nat}
    (htext : r.pattern.segments[i]? = some (.literal text))
    (h : (r.match? path caseSensitive).isSome = true) :
    ∃ part, (Path.segments path)[i]? = some part ∧ Text.agree caseSensitive text part = true :=
  (Pattern.admitsLeading_iff.1 (Pattern.isSome_match?_iff.1 h).2).2 i text htext

/-- **Routes that ask for different texts at one place do not overlap.** -/
theorem not_overlaps_of_literal {i : Nat} {a b : String}
    (ha : r.pattern.segments[i]? = some (.literal a))
    (hb : s.pattern.segments[i]? = some (.literal b))
    (hne : Text.agree caseSensitive a b = false) : ¬ r.Overlaps caseSensitive s := by
  rintro ⟨path, hr, hs⟩
  obtain ⟨part, hpart, hagree⟩ := exists_agree_of_match? ha hr
  obtain ⟨part', hpart', hagree'⟩ := exists_agree_of_match? hb hs
  obtain rfl : part = part' := Option.some.inj (hpart.symm.trans hpart')
  have hab := Text.agree_trans hagree (Text.agree_symm hagree')
  rw [hne] at hab
  exact nomatch hab

end Route

namespace RouteTable

variable {t t' : RouteTable} {path : String}

/-! ## The first place -/

/-- Whether a place is the first of a table whose route matches a path, and what the match is. -/
structure IsFirst (t : RouteTable) (path : String) (i : Fin t.routes.length) (m : RouteMatch) :
    Prop where
  route : t.routes.get i = m.route
  params : m.route.match? path t.caseSensitive = some m.params
  earlier : ∀ j < i, (t.routes.get j).match? path t.caseSensitive = none

/-- **A path is resolved to the first route that matches it.** -/
theorem resolve_eq_some_iff {m : RouteMatch} :
    t.resolve path = some m ↔ ∃ i, t.IsFirst path i m := by
  rw [resolve, List.findSome?_eq_some_iff]
  constructor
  · rintro ⟨before, r, after, hsplit, hm, hnone⟩
    obtain ⟨params, hparams, rfl⟩ := Option.map_eq_some_iff.1 hm
    have hlength : before.length < t.routes.length := by simp [hsplit]
    refine ⟨⟨before.length, hlength⟩, ?_, hparams, fun j hj => ?_⟩
    · simp [hsplit]
    · have hmem : t.routes.get j ∈ before := by
        have hget : t.routes.get j = before.get ⟨j, hj⟩ := by
          simp only [hsplit, List.get_eq_getElem]
          exact List.getElem_append_left hj
        rw [hget]
        exact List.get_mem before _
      simpa using hnone _ hmem
  · rintro ⟨i, hroute, hparams, hearlier⟩
    refine ⟨t.routes.take i, m.route, t.routes.drop (i + 1), ?_, ?_, fun r hr => ?_⟩
    · rw [← hroute]
      simp
    · rw [hparams]
      rfl
    · obtain ⟨j, hj, rfl⟩ := List.mem_take_iff_getElem.1 hr
      have hji : j < i.val := by omega
      have hnone := hearlier ⟨j, by omega⟩ hji
      simpa using hnone

/-! ## Rearrangements -/

/-- A rearrangement of a table: each route has a place in the other table, and of two routes that
overlap the one that stood first still does. -/
structure KeepsOverlaps (t t' : RouteTable) (place : Fin t.routes.length ≃ Fin t'.routes.length) :
    Prop where
  caseSensitive : t'.caseSensitive = t.caseSensitive
  route : ∀ i, t'.routes.get (place i) = t.routes.get i
  order : ∀ i j, i < j → (t.routes.get i).Overlaps t.caseSensitive (t.routes.get j) → place i < place j

namespace KeepsOverlaps

variable {place : Fin t.routes.length ≃ Fin t'.routes.length}

/-- What was moved can be moved back. -/
theorem symm (h : KeepsOverlaps t t' place) : KeepsOverlaps t' t place.symm where
  caseSensitive := h.caseSensitive.symm
  route := fun i => by rw [← h.route, Equiv.apply_symm_apply]
  order := by
    intro i j hij hoverlap
    rw [h.caseSensitive, ← place.apply_symm_apply i, ← place.apply_symm_apply j, h.route,
      h.route] at hoverlap
    rcases lt_trichotomy (place.symm i) (place.symm j) with hlt | heq | hgt
    · exact hlt
    · exact absurd (place.symm.injective heq) (ne_of_lt hij)
    · -- then the two would have changed their order on the way there
      have hback := h.order _ _ hgt hoverlap.symm
      rw [place.apply_symm_apply, place.apply_symm_apply] at hback
      exact absurd hij (not_lt_of_gt hback)

/-- **The first place is taken to the first place.**  A route that matches the path overlaps with the
one that came first, and so does not pass it. -/
theorem isFirst (h : KeepsOverlaps t t' place) {i : Fin t.routes.length} {m : RouteMatch}
    (hi : t.IsFirst path i m) : t'.IsFirst path (place i) m where
  route := (h.route i).trans hi.route
  params := by
    rw [h.caseSensitive]
    exact hi.params
  earlier := by
    intro j hj
    obtain ⟨k, rfl⟩ := place.surjective j
    rw [h.route, h.caseSensitive]
    by_contra hmatch
    have hk : ((t.routes.get k).match? path t.caseSensitive).isSome = true :=
      Option.isSome_iff_ne_none.2 hmatch
    have hfirst : ((t.routes.get i).match? path t.caseSensitive).isSome = true := by
      rw [hi.route, hi.params]
      rfl
    rcases lt_trichotomy k i with hlt | heq | hgt
    · exact hmatch (hi.earlier k hlt)
    · rw [heq] at hj
      exact absurd hj (lt_irrefl _)
    · exact absurd hj (not_lt_of_gt (h.order i k hgt ⟨path, hfirst, hk⟩))

theorem isFirst_iff (h : KeepsOverlaps t t' place) {i : Fin t.routes.length} {m : RouteMatch} :
    t.IsFirst path i m ↔ t'.IsFirst path (place i) m := by
  constructor
  · exact h.isFirst
  · intro hi
    have hback := h.symm.isFirst hi
    rw [Equiv.symm_apply_apply] at hback
    exact hback

theorem resolve_eq (h : KeepsOverlaps t t' place) (path : String) :
    t'.resolve path = t.resolve path := by
  refine Option.ext fun m => ?_
  rw [resolve_eq_some_iff, resolve_eq_some_iff, ← place.exists_congr_right]
  exact exists_congr fun i => h.isFirst_iff.symm

end KeepsOverlaps

/-! ## The main result -/

/-- **The order of routes counts where they overlap, and nowhere else.**  A path is resolved to the
first route that matches it, with the parameters of that match, and to nothing exactly when no route
matches.  In a rearrangement in which no two routes that overlap change their order, the first place
is where that route went, and every path is resolved as before. -/
theorem order_counts_in_overlaps (t : RouteTable) (path : String) :
    (∀ m, t.resolve path = some m ↔ ∃ i, t.IsFirst path i m) ∧
      (t.resolve path = none ↔ ∀ r ∈ t.routes, r.match? path t.caseSensitive = none) ∧
      ∀ t' place, KeepsOverlaps t t' place →
        t'.resolve path = t.resolve path ∧
          ∀ i m, t.IsFirst path i m ↔ t'.IsFirst path (place i) m :=
  ⟨fun _ => resolve_eq_some_iff, resolve_eq_none_iff,
    fun _ _ h => ⟨h.resolve_eq path, fun _ _ => h.isFirst_iff⟩⟩

/-- An exact route to one kind of orders. -/
def ordersRoute (kind : String) : Route :=
  ⟨kind, .ofSegments [.literal "order", .literal kind], true, .text kind⟩

/-- A route to any order. -/
def orderRoute : Route :=
  ⟨"order", .ofSegments [.literal "order", .param "id"], false, .view "order"⟩

/-- Two routes that do not overlap, and one behind them that overlaps with both. -/
def ordersTable : RouteTable := ⟨[ordersRoute "new", ordersRoute "old", orderRoute], false⟩

/-- The same routes, the first two exchanged. -/
def exchangedTable : RouteTable := ⟨[ordersRoute "old", ordersRoute "new", orderRoute], false⟩

/-- Where the routes went. -/
def exchange : Fin 3 ≃ Fin 3 := Equiv.swap 0 1

theorem order_counts_in_overlaps_exchange :
    KeepsOverlaps ordersTable exchangedTable exchange ∧
      ∀ path, exchangedTable.resolve path = ordersTable.resolve path := by
  have hkeeps : KeepsOverlaps ordersTable exchangedTable exchange := by
    refine ⟨rfl, by decide, fun i j hij hoverlap => ?_⟩
    by_cases hexact : i = (0 : Fin 3) ∧ j = (1 : Fin 3)
    · obtain ⟨rfl, rfl⟩ := hexact
      exact absurd hoverlap (Route.not_overlaps_of_literal (i := 1) rfl rfl (by decide))
    · have hothers : ∀ i j : Fin 3, i < j → ¬ (i = 0 ∧ j = 1) → exchange i < exchange j := by
        decide
      exact hothers i j hij hexact
  exact ⟨hkeeps, fun path => ((order_counts_in_overlaps ordersTable path).2.2 _ _ hkeeps).1⟩

end RouteTable

end PageRouter
