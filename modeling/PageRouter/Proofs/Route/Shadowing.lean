import Mathlib.Data.List.Basic
import PageRouter.Proofs.Config.Faults
import PageRouter.Proofs.Pattern.Covering
import PageRouter.Proofs.Route.Compile

/-!
# Shadowed routes are the ones that can go

`Config.faults` reports a route when one earlier route covers it.  The table decides by all earlier
routes together, those that are reported themselves among them.  The two agree: a route that is
reported is resolved to on no path, and all of them can be taken out at once
(`resolve_of_shadowed`); an exact route that is not reported is resolved to on some path, however
many routes stand before it.

* `isSome_findSome?_of_covers`: on a path that a reported route matches, the routes before it have a
  match already.
* `findSome?_filter`: what never comes first can be left out.
* `exists_resolve_of_escapes`: the path that a pattern makes with a text too long for all literals
  before it is matched by no route that does not cover it.
-/

set_option autoImplicit false

namespace PageRouter

/-! ## Lists -/

/-- Two places of a list at which the same name stands are the same place, if no name stands
twice. -/
theorem eq_of_nodup_names {α : Type} {name : α → String} {pre pre' post post' : List α} {a a' : α}
    (hnodup : ((pre ++ a :: post).map name).Nodup) (heq : pre ++ a :: post = pre' ++ a' :: post')
    (hname : name a = name a') : pre = pre' ∧ a = a' ∧ post = post' := by
  rw [List.map_append, List.map_cons, List.nodup_append] at hnodup
  obtain ⟨_, hpost, hpre⟩ := hnodup
  have hnotPre : a' ∉ pre := fun h =>
    hpre (name a') (List.mem_map_of_mem h) (name a) List.mem_cons_self hname.symm
  have hnotPost : a' ∉ post := fun h =>
    (List.nodup_cons.1 hpost).1 (hname ▸ List.mem_map_of_mem h)
  exact (List.append_cons_inj_of_notMem hnotPre hnotPost).1 heq

/-- **What never comes first can be left out.**  If some entry in front of each entry left out gives
a result whenever that entry does, the first result stays the same. -/
theorem findSome?_filter {α β : Type} {f : α → Option β} {p : α → Bool} {l : List α}
    (h : ∀ pre a post, l = pre ++ a :: post → p a = false → (f a).isSome = true →
      (pre.findSome? f).isSome = true) : (l.filter p).findSome? f = l.findSome? f := by
  induction l using List.reverseRecOn with
  | nil => rfl
  | append_singleton l a ih =>
    have hl : (l.filter p).findSome? f = l.findSome? f := by
      refine ih fun pre b post hsplit => h pre b (post ++ [a]) ?_
      rw [hsplit, List.append_assoc, List.cons_append]
    rw [List.filter_append, List.findSome?_append, List.findSome?_append, hl]
    cases hp : p a with
    | true => rw [List.filter_singleton, hp, cond_true]
    | false =>
      rw [List.filter_singleton, hp, cond_false]
      cases hf : f a with
      | none => simp [hf]
      | some b =>
        have hbefore := h l a [] rfl hp (by rw [hf]; rfl)
        obtain ⟨b', hb'⟩ := Option.isSome_iff_exists.1 hbefore
        rw [hb']
        rfl

/-! ## Routes that cover others -/

/-- Whether a route matches whatever another one matches, by a look at their patterns. -/
def Route.Covers (caseSensitive : Bool) (e r : Route) : Prop :=
  e.pattern.covers e.exact r.pattern r.exact caseSensitive = true

/-- A declared route is covered when the route it is compiled to is. -/
theorem isCovered_iff_exists_covers {caseSensitive : Bool} {before : List RouteDecl}
    {d : RouteDecl} {rs : List Route} {r : Route}
    (hbefore : List.Forall₂ RouteDecl.Compiles before rs) (hd : d.Compiles r) :
    Config.IsCovered caseSensitive before d ↔ ∃ e ∈ rs, e.Covers caseSensitive r := by
  obtain ⟨_, hexact, _, hparse⟩ := RouteDecl.compiles_iff.1 hd
  constructor
  · rintro ⟨pattern, hpattern, e, he, earlier, hearlier, hcovers⟩
    obtain ⟨s, hs, hcompiles⟩ := RouteTable.exists_mem_of_compiles hbefore he
    obtain ⟨_, hsexact, _, hsparse⟩ := RouteDecl.compiles_iff.1 hcompiles
    rw [hparse] at hpattern
    rw [hsparse] at hearlier
    refine ⟨s, hs, ?_⟩
    rw [Route.Covers, hexact, hsexact, Except.ok.inj hpattern, Except.ok.inj hearlier]
    exact hcovers
  · rintro ⟨s, hs, hcovers⟩
    obtain ⟨e, he, hcompiles⟩ := RouteTable.exists_compiles_of_mem hbefore hs
    obtain ⟨_, hsexact, _, hsparse⟩ := RouteDecl.compiles_iff.1 hcompiles
    rw [Route.Covers, hexact, hsexact] at hcovers
    exact ⟨r.pattern, hparse, e, he, s.pattern, hsparse, hcovers⟩

namespace RouteTable

variable {c : Config} {views : View.Registry} {t : RouteTable} {caseSensitive : Bool}
  {path : String}

/-- The match of a route, as the table gives it. -/
def matchOf (caseSensitive : Bool) (path : String) (r : Route) : Option RouteMatch :=
  (r.match? path caseSensitive).map (RouteMatch.mk r)

theorem resolve_eq (t : RouteTable) (path : String) :
    t.resolve path = t.routes.findSome? (matchOf t.caseSensitive path) := rfl

theorem route_of_matchOf {r : Route} {m : RouteMatch} (h : matchOf caseSensitive path r = some m) :
    m.route = r := by
  obtain ⟨params, _, rfl⟩ := Option.map_eq_some_iff.1 h
  rfl

theorem isSome_matchOf_of_covers {e r : Route} (h : e.Covers caseSensitive r)
    (hm : (matchOf caseSensitive path r).isSome = true) :
    (matchOf caseSensitive path e).isSome = true := by
  rw [matchOf, Option.isSome_map] at hm ⊢
  exact Pattern.isSome_match?_of_covers h hm

/-- **A route is reported exactly when a route before it covers it.** -/
theorem mem_shadowed_iff_exists_covers (hnodup : (c.routes.map RouteDecl.name).Nodup)
    (hroutes : List.Forall₂ RouteDecl.Compiles c.routes t.routes)
    (hcase : t.caseSensitive = c.routing.caseSensitive) {before after : List Route} {r : Route}
    (hsplit : t.routes = before ++ r :: after) :
    r.name ∈ c.shadowed views ↔ ∃ e ∈ before, e.Covers t.caseSensitive r := by
  have hnames : ((before ++ r :: after).map Route.name).Nodup := by
    rw [← hsplit, map_name_eq hroutes]
    exact hnodup
  rw [Config.mem_shadowed_iff, hcase]
  constructor
  · rintro ⟨pre, d, post, hdecls, hname, hcovered⟩
    rw [hdecls] at hroutes
    obtain ⟨before', r', after', hsplit', hbefore, hr, _⟩ := exists_split_of_decls hroutes
    obtain ⟨rfl, rfl, _⟩ := eq_of_nodup_names hnames (hsplit.symm.trans hsplit')
      (hname.symm.trans hr.name_eq.symm)
    exact (isCovered_iff_exists_covers hbefore hr).1 hcovered
  · intro hcovered
    have hr : r ∈ t.routes := by
      rw [hsplit]
      exact List.mem_append_right before List.mem_cons_self
    obtain ⟨d, hd, hcompiles⟩ := exists_compiles_of_mem hroutes hr
    obtain ⟨pre, post, hdecls⟩ := List.append_of_mem hd
    rw [hdecls] at hroutes
    obtain ⟨before', r', after', hsplit', hbefore, hr', _⟩ := exists_split_of_decls hroutes
    obtain ⟨rfl, rfl, _⟩ := eq_of_nodup_names hnames (hsplit.symm.trans hsplit')
      (hcompiles.name_eq.trans hr'.name_eq.symm)
    exact ⟨pre, d, post, hdecls, hcompiles.name_eq.symm,
      (isCovered_iff_exists_covers hbefore hr').2 hcovered⟩

/-- On a path that a covered route matches, the routes before it have a match already. -/
theorem isSome_findSome?_of_covers {before : List Route} {r : Route}
    (h : ∃ e ∈ before, e.Covers caseSensitive r)
    (hm : (matchOf caseSensitive path r).isSome = true) :
    (before.findSome? (matchOf caseSensitive path)).isSome = true := by
  obtain ⟨e, he, hcovers⟩ := h
  exact List.findSome?_isSome_iff.2 ⟨e, he, isSome_matchOf_of_covers hcovers hm⟩

/-- A resolved route comes with the routes before it, none of which matches. -/
theorem exists_split_of_resolve {m : RouteMatch} (h : t.resolve path = some m) :
    ∃ before after, t.routes = before ++ m.route :: after ∧
      matchOf t.caseSensitive path m.route = some m ∧
      before.findSome? (matchOf t.caseSensitive path) = none := by
  rw [resolve_eq] at h
  obtain ⟨before, r, after, hsplit, hm, hnone⟩ := List.findSome?_eq_some_iff.1 h
  have hr := route_of_matchOf hm
  rw [hr]
  exact ⟨before, after, hsplit, hm, List.findSome?_eq_none_iff.2 hnone⟩

/-- **One path escapes all routes that do not cover a pattern.**  The path is the pattern itself,
with a text for the parameters that agrees with no literal of the routes before. -/
theorem exists_resolve_of_escapes {before after : List Route} {r : Route} {p : Pattern}
    (hsplit : t.routes = before ++ r :: after)
    (hliteral : ∀ text, .literal text ∈ p.segments → Path.IsSegment text)
    (hmatches : ∀ path, (p.match? path true t.caseSensitive).isSome = true →
      (matchOf t.caseSensitive path r).isSome = true)
    (hescapes : ¬ ∃ e ∈ before, e.pattern.covers e.exact p true t.caseSensitive = true) :
    ∃ path m, t.resolve path = some m ∧ m.route = r := by
  let value := Text.longerThan (before.flatMap fun e => e.pattern.literals)
  have hvalue : Path.IsSegment value := Text.isSegment_longerThan _
  have hmatch : (matchOf t.caseSensitive (p.filledPath value) r).isSome = true :=
    hmatches _ (Pattern.isSome_match?_filledPath hliteral hvalue)
  have hbefore : ∀ e ∈ before, matchOf t.caseSensitive (p.filledPath value) e = none := by
    intro e he
    cases hm : matchOf t.caseSensitive (p.filledPath value) e with
    | none => rfl
    | some m =>
      refine absurd ⟨e, he, ?_⟩ hescapes
      refine Pattern.covers_of_match?_filled hliteral hvalue (fun text htext => ?_) ?_
      · exact Text.not_agree_longerThan (List.mem_flatMap.2 ⟨e, he, htext⟩) _
      · have hsome := congrArg Option.isSome hm
        rw [matchOf, Option.isSome_map] at hsome
        exact hsome
  obtain ⟨m, hm⟩ := Option.isSome_iff_exists.1 hmatch
  refine ⟨p.filledPath value, m, ?_, route_of_matchOf hm⟩
  rw [resolve_eq]
  exact List.findSome?_eq_some_iff.2 ⟨before, r, after, hsplit, hm, hbefore⟩

/-- An exact route that no route before it covers is resolved to, at a path that its own pattern
makes. -/
theorem exists_resolve_of_not_covered {before after : List Route} {r : Route}
    (hsplit : t.routes = before ++ r :: after) (hformed : Pattern.IsWellFormed r.pattern.segments)
    (hexact : r.exact = true) (h : ¬ ∃ e ∈ before, e.Covers t.caseSensitive r) :
    ∃ path m, t.resolve path = some m ∧ m.route = r := by
  refine exists_resolve_of_escapes hsplit hformed.literal (fun path hpath => ?_) ?_
  · rw [matchOf, Option.isSome_map, Route.match?, hexact]
    exact hpath
  · simpa only [Route.Covers, hexact] using h

/-! ## The main result -/

/-- **The routes reported to be shadowed are the ones that can go.**  In a table of differently
named routes, a route that is reported is resolved to on no path, and without all those that are
reported every path resolves as before; but an exact route that is not reported is resolved to on
some path. -/
theorem resolve_of_shadowed (hnodup : (c.routes.map RouteDecl.name).Nodup)
    (ht : ofDecls c.routes c.routing = .ok t) (views : View.Registry) :
    (∀ d ∈ c.routes, d.name ∈ c.shadowed views →
        ∀ path m, t.resolve path = some m → m.route.name ≠ d.name) ∧
      (∃ t', ofDecls (c.routes.filter fun d => d.name ∉ c.shadowed views) c.routing = .ok t' ∧
        ∀ path, t'.resolve path = t.resolve path) ∧
      ∀ d ∈ c.routes, d.exact = true → d.name ∉ c.shadowed views →
        ∃ path m, t.resolve path = some m ∧ d.compile = .ok m.route := by
  obtain ⟨hroutes, hcase⟩ := ofDecls_eq_ok_iff.1 ht
  have hshadow : ∀ before r after, t.routes = before ++ r :: after →
      (r.name ∈ c.shadowed views ↔ ∃ e ∈ before, e.Covers t.caseSensitive r) :=
    fun _ _ _ hsplit => mem_shadowed_iff_exists_covers hnodup hroutes hcase hsplit
  refine ⟨fun d _ hd path m hm hname => ?_, ?_, fun d hd hexact hreported => ?_⟩
  · obtain ⟨before, after, hsplit, hmatch, hnone⟩ := exists_split_of_resolve hm
    have hcovered := (hshadow before m.route after hsplit).1 (hname ▸ hd)
    have hsome := isSome_findSome?_of_covers hcovered (congrArg Option.isSome hmatch)
    rw [hnone] at hsome
    exact absurd hsome (by simp)
  · let rest := t.routes.filter fun r => r.name ∉ c.shadowed views
    have hrest : List.Forall₂ RouteDecl.Compiles
        (c.routes.filter fun d => d.name ∉ c.shadowed views) rest := by
      refine List.rel_filter (fun d r hcompiles => ?_) hroutes
      show decide (d.name ∉ c.shadowed views) = true ↔ decide (r.name ∉ c.shadowed views) = true
      rw [hcompiles.name_eq]
    refine ⟨⟨rest, t.caseSensitive⟩, ofDecls_eq_ok_iff.2 ⟨hrest, hcase⟩, fun path => ?_⟩
    rw [resolve_eq, resolve_eq]
    refine findSome?_filter fun before r after hsplit hp hm => ?_
    have hreported : r.name ∈ c.shadowed views := by simpa using hp
    exact isSome_findSome?_of_covers ((hshadow before r after hsplit).1 hreported) hm
  · obtain ⟨r, hr, hcompiles⟩ := exists_mem_of_compiles hroutes hd
    obtain ⟨before, after, hsplit⟩ := List.append_of_mem hr
    obtain ⟨hname, hrexact, _, hparse⟩ := RouteDecl.compiles_iff.1 hcompiles
    have hnot := mt (hshadow before r after hsplit).2 (hname ▸ hreported)
    obtain ⟨path, m, hm, hroute⟩ := exists_resolve_of_not_covered hsplit
      (Pattern.isWellFormed_of_parse hparse) (hrexact.trans hexact) hnot
    exact ⟨path, m, hm, hroute ▸ hcompiles⟩

/-- A prefix that takes the paths of the route after it, and an exact route that some paths are left
to. -/
def newsConfig : Config where
  routes := [⟨"home", "/home", false, none, some "Home"⟩,
    ⟨"news", "/HOME/:day", true, none, some "News"⟩,
    ⟨"item", "/:id", true, none, some "Item"⟩]

theorem resolve_newsConfig :
    newsConfig.shadowed .standard = ["news"] ∧
      ∃ t, ofDecls newsConfig.routes newsConfig.routing = .ok t ∧
        (∀ path m, t.resolve path = some m → m.route.name ≠ "news") ∧
        ∃ path m, t.resolve path = some m ∧ m.route.name = "item" := by
  have hshadowed : newsConfig.shadowed .standard = ["news"] := by decide +kernel
  have hnodup : (newsConfig.routes.map RouteDecl.name).Nodup := by decide
  have hcompiles : (ofDecls newsConfig.routes newsConfig.routing).toOption.isSome = true := by
    decide +kernel
  obtain ⟨t, ht⟩ : ∃ t, ofDecls newsConfig.routes newsConfig.routing = .ok t := by
    cases h : ofDecls newsConfig.routes newsConfig.routing with
    | error fault => simp [h, Except.toOption] at hcompiles
    | ok t => exact ⟨t, rfl⟩
  obtain ⟨hnever, _, hsome⟩ := resolve_of_shadowed hnodup ht .standard
  obtain ⟨path, m, hm, hcompile⟩ := hsome ⟨"item", "/:id", true, none, some "Item"⟩ (by decide)
    rfl (by rw [hshadowed]; decide)
  refine ⟨hshadowed, t, ht, hnever ⟨"news", "/HOME/:day", true, none, some "News"⟩ (by decide)
    (by rw [hshadowed]; decide), path, m, hm, ?_⟩
  exact (RouteDecl.compiles_iff.1 hcompile).1

end RouteTable

end PageRouter
