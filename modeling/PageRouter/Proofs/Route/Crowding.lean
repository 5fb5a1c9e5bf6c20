import Mathlib.Data.Nat.Find
import PageRouter.Proofs.Config.Blocks
import PageRouter.Proofs.Pattern.Extension
import PageRouter.Proofs.Route.Shadowing

/-!
# Routes that are crowded out

A route that is not exact matches paths of every length from its own on.  `Config.faults` asks of
each earlier route whether it takes all of them.  Several earlier routes may take them together:
exact ones those of some lengths, and a longer one that is not exact the rest.  Then the route is
resolved to on no path although none of them covers it, and there is no other way (`IsCrowdedOut`).

* `exists_resolve_iff_exists_length`: a route that is not exact is resolved to exactly when there is
  a length at which no route before it takes all of its paths.
* `isCrowdedOut_iff`: at all lengths at once means finitely many exact routes and one that is not.
* `exists_resolve_iff_not_crowdedOut`: what a configuration without faults says of its routes.
-/

set_option autoImplicit false

namespace PageRouter

namespace Route

variable {caseSensitive : Bool} {e r : Route} {m n : Nat}

/-- The number of segments in the pattern of a route. -/
def length (r : Route) : Nat := r.pattern.segments.length

/-- Whether one route takes all paths of `n` segments from another, which is not exact: it covers the
other pattern when that is extended to this length. -/
def CoversAt (caseSensitive : Bool) (e r : Route) (n : Nat) : Prop :=
  e.pattern.covers e.exact (r.pattern.extendedTo n) true caseSensitive = true

instance (caseSensitive : Bool) (e r : Route) (n : Nat) :
    Decidable (CoversAt caseSensitive e r n) :=
  inferInstanceAs (Decidable (_ = true))

/-- Whether the routes before a route leave it no path, without any of them covering it: one of them
that is not exact takes the paths from its own length on, and exact ones take those of each length
below. -/
def IsCrowdedOut (caseSensitive : Bool) (before : List Route) (r : Route) : Prop :=
  ∃ e ∈ before, e.exact = false ∧ r.length < e.length ∧ e.CoversAt caseSensitive r e.length ∧
    ∀ n < e.length, r.length ≤ n →
      ∃ e' ∈ before, e'.exact = true ∧ e'.CoversAt caseSensitive r n

instance (caseSensitive : Bool) (before : List Route) (r : Route) :
    Decidable (IsCrowdedOut caseSensitive before r) :=
  inferInstanceAs (Decidable (∃ e ∈ before, _))

/-! ## Covering at one length -/

/-- An exact route covers at its own length only. -/
theorem CoversAt.length_eq (h : CoversAt caseSensitive e r n) (hexact : e.exact = true)
    (hn : r.length ≤ n) : e.length = n := by
  rw [CoversAt, Pattern.covers, hexact, Bool.and_eq_true] at h
  have hlength := h.1
  simp only [Bool.not_true, Bool.false_or, Bool.true_and, beq_iff_eq,
    Pattern.length_segments_extendedTo hn] at hlength
  exact hlength

/-- No route covers below its length. -/
theorem CoversAt.length_le (h : CoversAt caseSensitive e r n) (hn : r.length ≤ n) :
    e.length ≤ n := by
  rw [CoversAt, Pattern.covers, Bool.and_eq_true] at h
  have hlength := Pattern.length_le_of_coversLeading h.2
  rwa [Pattern.length_segments_extendedTo hn] at hlength

/-- A route that is not exact covers at all lengths from its own on alike. -/
theorem coversAt_congr (hexact : e.exact = false) (he : e.length ≤ m) (hm : r.length ≤ m)
    (hmn : m ≤ n) : CoversAt caseSensitive e r n ↔ CoversAt caseSensitive e r m := by
  rw [CoversAt, CoversAt, Pattern.covers, Pattern.covers, hexact,
    Pattern.coversLeading_extendedTo he hm hmn]
  rfl

/-- A route that is not exact and no longer than the one that it covers at some length covers it
altogether. -/
theorem CoversAt.covers (h : CoversAt caseSensitive e r n) (hexact : e.exact = false)
    (he : e.length ≤ r.length) : e.Covers caseSensitive r := by
  rw [CoversAt, Pattern.covers, Bool.and_eq_true, Pattern.segments_extendedTo,
    Pattern.coversLeading_append he] at h
  rw [Covers, Pattern.covers, hexact, h.2]
  rfl

/-- A route that is not exact and covers at some length, but not altogether, covers from its own
length on. -/
theorem CoversAt.at_length (h : CoversAt caseSensitive e r n) (hexact : e.exact = false)
    (hn : r.length ≤ n) (hnot : ¬ e.Covers caseSensitive r) :
    r.length < e.length ∧ e.length ≤ n ∧ CoversAt caseSensitive e r e.length := by
  have hlength : r.length < e.length := Nat.lt_of_not_le fun hle => hnot (h.covers hexact hle)
  have hle := h.length_le hn
  exact ⟨hlength, hle, (coversAt_congr hexact le_rfl hlength.le hle).1 h⟩

/-! ## Covering at all lengths -/

variable {before : List Route}

/-- Whether one of some routes takes all paths of a route from a number of segments on, which is its
own length. -/
def CoverFrom (caseSensitive : Bool) (before : List Route) (r : Route) (k : Nat) : Prop :=
  ∃ e ∈ before, e.exact = false ∧ e.length = k ∧ r.length < k ∧ e.CoversAt caseSensitive r k

/-- Where a route that is not exact covers at some length, it covers from a length no greater on. -/
theorem exists_coverFrom (hnot : ¬ ∃ e ∈ before, e.Covers caseSensitive r) (he : e ∈ before)
    (hexact : e.exact = false) (hn : r.length ≤ n) (h : e.CoversAt caseSensitive r n) :
    ∃ k ≤ n, CoverFrom caseSensitive before r k := by
  obtain ⟨hlength, hle, hcovers⟩ := h.at_length hexact hn fun hcov => hnot ⟨e, he, hcov⟩
  exact ⟨e.length, hle, e, he, hexact, rfl, hlength, hcovers⟩

/-- Exact routes are not enough to cover at all lengths, since there are lengths that none of them
has. -/
theorem exists_coverFrom_of_forall (hnot : ¬ ∃ e ∈ before, e.Covers caseSensitive r)
    (hall : ∀ n, r.length ≤ n → ∃ e ∈ before, e.CoversAt caseSensitive r n) :
    ∃ k, CoverFrom caseSensitive before r k := by
  let long := r.length + (before.map length).max?.getD 0 + 1
  have hlong : r.length ≤ long := by omega
  obtain ⟨e, he, hcovers⟩ := hall long hlong
  cases hexact : e.exact with
  | false =>
    obtain ⟨k, _, hk⟩ := exists_coverFrom hnot he hexact hlong hcovers
    exact ⟨k, hk⟩
  | true =>
    have hlength := hcovers.length_eq hexact hlong
    have hle : e.length ≤ (before.map length).max?.getD 0 :=
      List.le_max?_getD_of_mem (List.mem_map_of_mem he)
    omega

/-- **Routes that take all paths of a route together crowd it out**, if none of them covers it. -/
theorem isCrowdedOut_iff (hnot : ¬ ∃ e ∈ before, e.Covers caseSensitive r) :
    IsCrowdedOut caseSensitive before r ↔
      ∀ n, r.length ≤ n → ∃ e ∈ before, e.CoversAt caseSensitive r n := by
  constructor
  · rintro ⟨e, he, hexact, hlength, hcovers, hbelow⟩ n hn
    rcases Nat.lt_or_ge n e.length with hlt | hge
    · obtain ⟨e', he', _, hcovers'⟩ := hbelow n hlt hn
      exact ⟨e', he', hcovers'⟩
    · exact ⟨e, he, (coversAt_congr hexact le_rfl hlength.le hge).2 hcovers⟩
  · intro hall
    -- below the least such length no route but an exact one can cover
    classical
    have hexists := exists_coverFrom_of_forall hnot hall
    obtain ⟨e, he, hexact, hk, hlength, hcovers⟩ := Nat.find_spec hexists
    rw [← hk] at hlength hcovers
    refine ⟨e, he, hexact, hlength, hcovers, fun n hlt hn => ?_⟩
    rw [hk] at hlt
    obtain ⟨e', he', hcovers'⟩ := hall n hn
    refine ⟨e', he', ?_, hcovers'⟩
    by_contra hexact'
    obtain ⟨k, hkn, hfrom⟩ := exists_coverFrom hnot he' (Bool.eq_false_iff.2 hexact') hn hcovers'
    exact Nat.find_min hexists (hkn.trans_lt hlt) hfrom

end Route

namespace RouteTable

variable {c : Config} {views : View.Registry} {t : RouteTable} {before after : List Route}
  {r : Route}

/-- **Where a route that is not exact is resolved to.**  There has to be a length at which no route
before it takes all of its paths, and any such length will do. -/
theorem exists_resolve_iff_exists_length (hnodup : (t.routes.map Route.name).Nodup)
    (hsplit : t.routes = before ++ r :: after)
    (hliteral : ∀ text, .literal text ∈ r.pattern.segments → Path.IsSegment text)
    (hexact : r.exact = false) :
    (∃ path m, t.resolve path = some m ∧ m.route = r) ↔
      ∃ n, r.length ≤ n ∧ ¬ ∃ e ∈ before, e.CoversAt t.caseSensitive r n := by
  have hmatches : ∀ {n}, r.length ≤ n → ∀ path,
      ((r.pattern.extendedTo n).match? path true t.caseSensitive).isSome = true ↔
        (Path.segments path).length = n ∧ (matchOf t.caseSensitive path r).isSome = true := by
    intro n hn path
    rw [Pattern.isSome_match?_extendedTo_iff hn, matchOf, Option.isSome_map, Route.match?, hexact]
  constructor
  · rintro ⟨path, m, hm, rfl⟩
    obtain ⟨before', after', hsplit', hmatch, hnone⟩ := exists_split_of_resolve hm
    obtain ⟨rfl, _, _⟩ := eq_of_nodup_names (hsplit ▸ hnodup) (hsplit.symm.trans hsplit') rfl
    have hsome := congrArg Option.isSome hmatch
    have hlength : m.route.length ≤ (Path.segments path).length := by
      rw [matchOf, Option.isSome_map, Route.match?, hexact, Option.isSome_some,
        Pattern.isSome_match?_iff] at hsome
      simpa [Route.length, Pattern.fits] using hsome.1
    refine ⟨_, hlength, ?_⟩
    rintro ⟨e, he, hcovers⟩
    have htaken := Pattern.isSome_match?_of_covers hcovers ((hmatches hlength path).2 ⟨rfl, hsome⟩)
    rw [List.findSome?_eq_none_iff] at hnone
    have hfree := congrArg Option.isSome (hnone e he)
    rw [matchOf, Option.isSome_map] at hfree
    exact absurd (htaken.symm.trans hfree) (by simp)
  · rintro ⟨n, hn, hescapes⟩
    refine exists_resolve_of_escapes hsplit
      (fun text htext => hliteral text (Pattern.mem_segments_of_literal_mem_extendedTo htext))
      (fun path hpath => ((hmatches hn path).1 hpath).2) hescapes

/-- **A route that is not exact is resolved to unless it is crowded out.**  A configuration without
faults has a table, in which every route that is not exact is resolved to on some path, except
those that the routes before them crowd out. -/
theorem exists_resolve_iff_not_crowdedOut (h : c.faults views = []) :
    ∃ t, ofDecls c.routes c.routing = .ok t ∧
      List.Forall₂ RouteDecl.Compiles c.routes t.routes ∧
      ∀ before r after, t.routes = before ++ r :: after → r.exact = false →
        ((∃ path m, t.resolve path = some m ∧ m.route = r) ↔
          ¬ r.IsCrowdedOut t.caseSensitive before) := by
  obtain ⟨t, ht⟩ := Config.exists_ofDecls_of_faults_eq_nil h
  obtain ⟨hroutes, hcase⟩ := ofDecls_eq_ok_iff.1 ht
  have hnodup := Config.nodup_names_of_faults_eq_nil h
  refine ⟨t, ht, hroutes, fun before r after hsplit hexact => ?_⟩
  have hshadow : r.name ∈ c.shadowed views ↔ ∃ e ∈ before, e.Covers t.caseSensitive r :=
    mem_shadowed_iff_exists_covers hnodup hroutes hcase hsplit
  have hnot : ¬ ∃ e ∈ before, e.Covers t.caseSensitive r := by
    rw [← hshadow, Config.shadowed, h]
    exact List.not_mem_nil
  have hr : r ∈ t.routes := by
    rw [hsplit]
    exact List.mem_append_right before List.mem_cons_self
  obtain ⟨d, _, hcompiles⟩ := exists_compiles_of_mem hroutes hr
  have hformed := Pattern.isWellFormed_of_parse (RouteDecl.compiles_iff.1 hcompiles).2.2.2
  have hnames : (t.routes.map Route.name).Nodup := by
    rw [map_name_eq hroutes]
    exact hnodup
  rw [exists_resolve_iff_exists_length hnames hsplit hformed.literal hexact,
    Route.isCrowdedOut_iff hnot]
  simp only [not_forall, exists_prop]

/-- A start page, the pages below it, and a route to all that is left. -/
def crowdedConfig : Config where
  routes := [⟨"page", "/", true, none, some "p"⟩,
    ⟨"below", "/:x", false, none, some "b"⟩,
    ⟨"rest", "/", false, none, some "r"⟩]

def pageRoute : Route := ⟨"page", ⟨"/", []⟩, true, .text "p"⟩

def belowRoute : Route := ⟨"below", ⟨"/:x", [.param "x"]⟩, false, .text "b"⟩

def restRoute : Route := ⟨"rest", ⟨"/", []⟩, false, .text "r"⟩

/-- The table of these routes. -/
def crowdedTable : RouteTable := ⟨[pageRoute, belowRoute, restRoute], false⟩

theorem ofDecls_crowdedConfig :
    ofDecls crowdedConfig.routes crowdedConfig.routing = .ok crowdedTable := rfl

theorem exists_resolve_crowdedConfig :
    crowdedConfig.faults .standard = [] ∧
      ofDecls crowdedConfig.routes crowdedConfig.routing = .ok crowdedTable ∧
      (∃ path m, crowdedTable.resolve path = some m ∧ m.route = belowRoute) ∧
      ¬ ∃ path m, crowdedTable.resolve path = some m ∧ m.route = restRoute := by
  have hfaults : crowdedConfig.faults .standard = [] := by decide +kernel
  obtain ⟨t, ht, _, hresolve⟩ := exists_resolve_iff_not_crowdedOut hfaults
  rw [ofDecls_crowdedConfig] at ht
  cases ht
  have hbelow : ¬ belowRoute.IsCrowdedOut false [pageRoute] := by decide
  have hrest : restRoute.IsCrowdedOut false [pageRoute, belowRoute] := by decide
  exact ⟨hfaults, rfl, (hresolve [pageRoute] belowRoute [restRoute] rfl rfl).2 hbelow,
    fun hex => (hresolve [pageRoute, belowRoute] restRoute [] rfl rfl).1 hex hrest⟩

/-- To be without faults is not enough: the routes before may take all paths between them. -/
theorem not_forall_exists_resolve :
    ¬ ∀ (c : Config) (views : View.Registry) (t : RouteTable), c.faults views = [] →
      ofDecls c.routes c.routing = .ok t → ∀ r ∈ t.routes, r.exact = false →
        ∃ path m, t.resolve path = some m ∧ m.route = r := by
  intro hall
  have hfaults : crowdedConfig.faults .standard = [] := by decide +kernel
  have hresolve := hall crowdedConfig .standard crowdedTable hfaults ofDecls_crowdedConfig restRoute
    (by decide) rfl
  have hsplit : crowdedTable.routes = [pageRoute, belowRoute] ++ restRoute :: [] := rfl
  obtain ⟨n, hn, hfree⟩ := (exists_resolve_iff_exists_length (by decide) hsplit
    (fun _ htext => nomatch htext) rfl).1 hresolve
  have hnot : ¬ ∃ e ∈ [pageRoute, belowRoute], e.Covers false restRoute := by
    unfold Route.Covers
    decide
  have hcrowded : restRoute.IsCrowdedOut false [pageRoute, belowRoute] := by decide
  exact hfree ((Route.isCrowdedOut_iff hnot).1 hcrowded n hn)

end RouteTable

end PageRouter
