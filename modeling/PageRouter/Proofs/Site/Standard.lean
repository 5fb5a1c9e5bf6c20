import Mathlib.Data.List.Nodup
import PageRouter.Proofs.Pattern.Covering
import PageRouter.Proofs.Route.Disjoint
import PageRouter.Proofs.Site.Pages
import PageRouter.Proofs.Site.Start

/-!
# Which page stands where

The application has five routes.  Four of them go by the first segment of a path, and one is for the
path that has none, so that no path is matched by two of them.  What is shown at a path is settled
by its segments, in whatever order the routes stand.

* `isDisjoint_standard`: no two routes of the application match one path.
* `showsRoute_iff`: a route of a started site without overlaps is shown where it matches.
* `decides_every_path`: what the application has at each path.
-/

set_option autoImplicit false

namespace PageRouter

/-- Whether the first of some segments is a word, up to ASCII case. -/
def Path.IsBelow (word : String) (segs : List String) : Prop :=
  ∃ first rest, segs = first :: rest ∧ Text.foldCase first = Text.foldCase word

/-! ## Short patterns -/

namespace Pattern

variable {path word name : String}

/-- The exact pattern without segments matches the paths without segments. -/
theorem isSome_match?_empty_iff {caseSensitive : Bool} :
    ((ofSegments []).match? path true caseSensitive).isSome = true ↔ Path.segments path = [] := by
  rw [isSome_match?_iff]
  simp [fits, ofSegments, admitsLeading]

/-- A pattern that is one word matches the paths below that word. -/
theorem isSome_match?_word_iff :
    ((ofSegments [.literal word]).match? path false false).isSome = true ↔
      Path.IsBelow word (Path.segments path) := by
  rw [isSome_match?_iff]
  cases Path.segments path with
  | nil => simp [admitsLeading, ofSegments, Path.IsBelow]
  | cons first rest =>
    simp [fits, admitsLeading, ofSegments, Path.IsBelow, Segment.admits, Text.agree_false_iff,
      @eq_comm _ (Text.foldCase word)]

/-- A word and a parameter behind it match the paths below the word that go on. -/
theorem isSome_match?_wordParam_iff :
    ((ofSegments [.literal word, .param name]).match? path false false).isSome = true ↔
      Path.IsBelow word (Path.segments path) ∧ 2 ≤ (Path.segments path).length := by
  rw [isSome_match?_iff]
  rcases Path.segments path with _ | ⟨first, _ | ⟨value, rest⟩⟩
  · simp [admitsLeading, ofSegments]
  · simp [admitsLeading, ofSegments]
  · simp [fits, admitsLeading, ofSegments, Path.IsBelow, Segment.admits, Text.agree_false_iff,
      @eq_comm _ (Text.foldCase word)]

/-- What such a pattern binds is the second segment. -/
theorem exists_second_of_match? {caseSensitive : Bool} {params : Params}
    (h : (ofSegments [.literal word, .param name]).match? path false caseSensitive = some params) :
    ∃ value, (Path.segments path)[1]? = some value ∧ params = ⟨[(name, value)]⟩ := by
  obtain ⟨value, hvalue, hmem⟩ := exists_bound_of_match? h (i := 1) rfl
  refine ⟨value, hvalue, ?_⟩
  have hnames := names_of_match? h
  obtain ⟨bs⟩ := params
  obtain ⟨b, rfl, _⟩ := List.map_eq_singleton_iff.1 hnames
  rw [List.mem_singleton.1 hmem]

end Pattern

/-! ## Routes that go by a word -/

/-- The word that the pattern of a route begins with, with its capitals made small. -/
def Route.word? (r : Route) : Option (List Char) :=
  (r.pattern.segments.head?.bind Pattern.Segment.text?).map Text.foldCase

/-- A path that is matched begins with the word of the route. -/
theorem Route.head?_of_match? {r : Route} {path text : String} {more : List Pattern.Segment}
    (hsegments : r.pattern.segments = .literal text :: more)
    (hm : (r.match? path false).isSome = true) :
    (Path.segments path).head?.map Text.foldCase = r.word? := by
  obtain ⟨_, hadmits⟩ := Pattern.isSome_match?_iff.1 hm
  rw [hsegments] at hadmits
  obtain ⟨first, hfirst, hagree⟩ := (Pattern.admitsLeading_iff.1 hadmits).2 0 text rfl
  have hword : r.word? = some (Text.foldCase text) := by
    rw [word?, hsegments]
    rfl
  rw [hword, List.head?_eq_getElem?, hfirst, Option.map_some, Text.agree_false_iff.1 hagree]

/-! ## The routes of the application -/

namespace Route

/-- The route to the landing page. -/
def userGeneration : Route := ⟨"user_gen", .ofSegments [], true, .view "user_gen"⟩

/-- The route to the start page. -/
def home : Route :=
  ⟨"home", .ofSegments [.literal "home"], false, .text "You are at the start page"⟩

def maker : Route := ⟨"maker", .ofSegments [.literal "make"], false, .view "maker"⟩

def book : Route := ⟨"book", .ofSegments [.literal "book"], false, .view "book"⟩

/-- The route to the page of an order. -/
def order : Route :=
  ⟨"order", .ofSegments [.literal "order", .param "orderId"], false, .view "order"⟩

end Route

namespace RouteTable

theorem routes_standard :
    standard.routes = [.userGeneration, .home, .maker, .book, .order] := rfl

theorem ofDecls_standard : ofDecls RouteDecl.standard {} = .ok standard := by decide +kernel

theorem word?_of_match? {r : Route} {path : String} (hr : r ∈ standard.routes)
    (hm : (r.match? path false).isSome = true) :
    (Path.segments path).head?.map Text.foldCase = r.word? := by
  simp only [routes_standard, List.mem_cons, List.not_mem_nil, or_false] at hr
  rcases hr with rfl | rfl | rfl | rfl | rfl
  · rw [Pattern.isSome_match?_empty_iff.1 hm]
    rfl
  · exact Route.head?_of_match? rfl hm
  · exact Route.head?_of_match? rfl hm
  · exact Route.head?_of_match? rfl hm
  · exact Route.head?_of_match? rfl hm

/-- **No two routes of the application match one path**, since they differ in their words. -/
theorem isDisjoint_standard : standard.IsDisjoint := by
  intro path r hr r' hr' hm hm'
  -- the first segment of the path is the word of both, and none for the landing page
  have hwords : (standard.routes.map Route.word?).Nodup := by decide +kernel
  exact List.inj_on_of_nodup_map hwords hr hr'
    ((word?_of_match? hr hm).symm.trans (word?_of_match? hr' hm'))

end RouteTable

namespace Site

variable {c : Config} {views : View.Registry} {site : Site} {path : String}

/-! ## Routes that are shown -/

theorem dispatch_eq_noMatch_iff :
    site.dispatch path = .ok (.noMatch path) ↔ site.table.resolve path = none := by
  rw [dispatch, visit]
  cases site.table.resolve path with
  | none => simp
  | some m => cases h : site.bodyOf m.route m.params <;> simp [h]

/-- Whether an outcome is a screen of a route of some name. -/
def ShowsRoute (outcome : Except Failure Outcome) (name : String) : Prop :=
  ∃ s, outcome = .ok (.rendered s) ∧ s.route = name

/-- A screen comes from the route of its name. -/
theorem exists_match_of_route_eq (h : start c views = .ok site) {s : Screen}
    (hs : site.dispatch path = .ok (.rendered s)) {r : Route} (hr : r ∈ site.table.routes)
    (hname : s.route = r.name) :
    ∃ params, r.match? path site.table.caseSensitive = some params ∧
      Shows site.views ⟨r, params⟩ s := by
  obtain ⟨hfaults, htable, _⟩ := start_eq_ok_iff.1 h
  have hnames : (site.table.routes.map Route.name).Nodup := by
    rw [RouteTable.map_name_eq (RouteTable.ofDecls_eq_ok_iff.1 htable).1]
    exact Config.nodup_names_of_faults_eq_nil hfaults
  obtain ⟨⟨route, params⟩, hresolve, hshows⟩ := dispatch_eq_rendered_iff.1 hs
  obtain ⟨hroute, hmatch⟩ := RouteTable.mem_of_resolve hresolve
  obtain rfl : route = r :=
    List.inj_on_of_nodup_map hnames hroute hr (hshows.route_eq.symm.trans hname)
  exact ⟨params, hmatch, hshows⟩

/-- **Where routes do not overlap, each is shown where it matches.** -/
theorem showsRoute_iff (hviews : ∀ v ∈ views.views, v.FailsOnlyForWant)
    (h : start c views = .ok site) (hdisjoint : site.table.IsDisjoint) {r : Route}
    (hr : r ∈ site.table.routes) :
    ShowsRoute (site.dispatch path) r.name ↔
      (r.match? path site.table.caseSensitive).isSome = true := by
  constructor
  · rintro ⟨s, hs, hname⟩
    obtain ⟨params, hmatch, _⟩ := exists_match_of_route_eq h hs hr hname
    rw [hmatch]
    rfl
  · intro hmatch
    obtain ⟨m, hresolve⟩ := RouteTable.exists_resolve_of_match? hr hmatch
    rcases dispatch_of_start hviews h path with ⟨s, hs⟩ | hnone
    · obtain ⟨m', hresolve', hshows⟩ := dispatch_eq_rendered_iff.1 hs
      obtain ⟨hroute, hmatch'⟩ := RouteTable.mem_of_resolve hresolve'
      refine ⟨s, hs, hshows.route_eq.trans (congrArg Route.name ?_)⟩
      exact hdisjoint path m'.route hroute r hr (by rw [hmatch']; rfl) hmatch
    · rw [dispatch_eq_noMatch_iff.1 hnone] at hresolve
      exact nomatch hresolve

/-- A site shows the same whatever the order of its routes, if they do not overlap. -/
theorem dispatch_perm {t t' : RouteTable} (h : t.IsDisjoint) (hroutes : t'.routes.Perm t.routes)
    (hcase : t'.caseSensitive = t.caseSensitive) (views : View.Registry) (path : String) :
    (Site.mk t' views).dispatch path = (Site.mk t views).dispatch path := by
  simp only [dispatch, visit, h.resolve_perm hroutes hcase path]
  rfl

/-! ## The application -/

/-- The application can be started, and has its own table. -/
theorem start_standard : start .standard .standard = .ok ⟨.standard, .standard⟩ := by
  have hfaults : Config.standard.faults .standard = [] := by decide +kernel
  obtain ⟨⟨table, views⟩, hstart⟩ := exists_start_of_faults_eq_nil hfaults
  obtain ⟨_, htable, hbind⟩ := start_eq_ok_iff.1 hstart
  obtain rfl : table = .standard := Except.ok.inj (htable.symm.trans RouteTable.ofDecls_standard)
  obtain ⟨hsite, _⟩ := bind_eq_ok_iff.1 hbind
  rw [hstart, hsite]

/-- What the application has at a path: the landing page where there are no segments, the other
pages below their words, and nothing elsewhere. -/
structure IsAppointed (path : String) (outcome : Except Failure Outcome) : Prop where
  landing : ShowsRoute outcome "user_gen" ↔ Path.segments path = []
  home : ShowsRoute outcome "home" ↔ Path.IsBelow "home" (Path.segments path)
  homeText : ∀ s, outcome = .ok (.rendered s) → s.route = "home" →
    s = ⟨"home", none, .empty, "You are at the start page"⟩
  maker : ShowsRoute outcome "maker" ↔ Path.IsBelow "make" (Path.segments path)
  book : ShowsRoute outcome "book" ↔ Path.IsBelow "book" (Path.segments path)
  order : ShowsRoute outcome "order" ↔
    Path.IsBelow "order" (Path.segments path) ∧ 2 ≤ (Path.segments path).length
  /-- An order is known by the second segment, as it stands. -/
  orderId : ∀ s, outcome = .ok (.rendered s) → s.route = "order" →
    ∃ id, (Path.segments path)[1]? = some id ∧ s.params = ⟨[("orderId", id)]⟩
  nothing : outcome = .ok (.noMatch path) ↔
    Path.segments path ≠ [] ∧ ¬ Path.IsBelow "home" (Path.segments path) ∧
      ¬ Path.IsBelow "make" (Path.segments path) ∧ ¬ Path.IsBelow "book" (Path.segments path) ∧
      ¬ (Path.IsBelow "order" (Path.segments path) ∧ 2 ≤ (Path.segments path).length)

/-- The application in its own order. -/
theorem isAppointed_standard (path : String) :
    IsAppointed path ((Site.mk .standard .standard).dispatch path) := by
  have hviews : ∀ v ∈ View.Registry.standard.views, v.FailsOnlyForWant :=
    fun v hv => View.Registry.failsOnlyForWant_of_mem_standard hv
  have hshown : ∀ r ∈ RouteTable.standard.routes,
      (ShowsRoute ((Site.mk .standard .standard).dispatch path) r.name ↔
        (r.match? path false).isSome = true) :=
    fun r hr => showsRoute_iff hviews start_standard RouteTable.isDisjoint_standard hr
  have hnothing : (Site.mk .standard .standard).dispatch path = .ok (.noMatch path) ↔
      ∀ r ∈ RouteTable.standard.routes, ¬ (r.match? path false).isSome = true := by
    simp only [dispatch_eq_noMatch_iff, RouteTable.resolve_eq_none_iff,
      Option.not_isSome_iff_eq_none]
    rfl
  simp only [RouteTable.routes_standard, List.forall_mem_cons] at hshown hnothing
  obtain ⟨hlanding, hhome, hmaker, hbook, horder, _⟩ := hshown
  refine
    { landing := hlanding.trans Pattern.isSome_match?_empty_iff
      home := hhome.trans Pattern.isSome_match?_word_iff
      homeText := fun s hs hname => ?text
      maker := hmaker.trans Pattern.isSome_match?_word_iff
      book := hbook.trans Pattern.isSome_match?_word_iff
      order := horder.trans Pattern.isSome_match?_wordParam_iff
      orderId := fun s hs hname => ?order
      nothing := hnothing.trans ?nothing }
  case text =>
    have hr : Route.home ∈ RouteTable.standard.routes := by simp [RouteTable.routes_standard]
    obtain ⟨⟨bs⟩, hmatch, hshows⟩ := exists_match_of_route_eq start_standard hs hr hname
    obtain rfl : bs = [] := List.map_eq_nil_iff.1 (Pattern.names_of_match? hmatch)
    cases hshows with
    | text htarget =>
      cases htarget
      rfl
    | view htarget _ _ => exact nomatch htarget
  case order =>
    have hr : Route.order ∈ RouteTable.standard.routes := by simp [RouteTable.routes_standard]
    obtain ⟨params, hmatch, hshows⟩ := exists_match_of_route_eq start_standard hs hr hname
    obtain ⟨id, hid, rfl⟩ := Pattern.exists_second_of_match? hmatch
    refine ⟨id, hid, ?_⟩
    cases hshows <;> rfl
  case nothing =>
    refine and_congr (not_congr Pattern.isSome_match?_empty_iff) ?_
    refine and_congr (not_congr Pattern.isSome_match?_word_iff) ?_
    refine and_congr (not_congr Pattern.isSome_match?_word_iff) ?_
    refine and_congr (not_congr Pattern.isSome_match?_word_iff) ?_
    refine (and_iff_left (fun _ h => absurd h List.not_mem_nil)).trans ?_
    exact not_congr Pattern.isSome_match?_wordParam_iff

/-- **What the application has at every path.**  Its table is the one that its declared routes are
compiled to, and it can be started.  No two of its routes match one path, so that they may stand in
any order without a difference.  It has the landing page where a path has no segments, the start
page, the maker and the book below their words, the page of an order where a second segment names
one, and nothing elsewhere. -/
theorem decides_every_path {routes : List Route} (h : routes.Perm RouteTable.standard.routes)
    (path : String) :
    RouteTable.ofDecls RouteDecl.standard {} = .ok .standard ∧
      start .standard .standard = .ok ⟨.standard, .standard⟩ ∧
      bind ⟨routes, false⟩ .standard = .ok ⟨⟨routes, false⟩, .standard⟩ ∧
      (RouteTable.mk routes false).IsDisjoint ∧
      (Site.mk ⟨routes, false⟩ .standard).dispatch path =
        (Site.mk .standard .standard).dispatch path ∧
      IsAppointed path ((Site.mk ⟨routes, false⟩ .standard).dispatch path) := by
  have hcase : (RouteTable.mk routes false).caseSensitive = RouteTable.standard.caseSensitive := rfl
  have hdispatch : (Site.mk ⟨routes, false⟩ .standard).dispatch path =
      (Site.mk .standard .standard).dispatch path :=
    dispatch_perm RouteTable.isDisjoint_standard h hcase .standard path
  refine ⟨RouteTable.ofDecls_standard, start_standard, ?bound,
    RouteTable.isDisjoint_standard.perm h hcase, hdispatch, ?appointed⟩
  case bound =>
    refine bind_eq_ok_iff.2 ⟨rfl, fun r hr => ?_⟩
    exact missingView?_eq_none_of_serves (serves_of_start start_standard (h.mem_iff.1 hr))
  case appointed =>
    rw [hdispatch]
    exact isAppointed_standard path

theorem decides_every_path_reversed :
    RouteTable.standard.routes.reverse.Perm RouteTable.standard.routes ∧
      Path.segments "//Order/%2f7//items/" = ["Order", "%2f7", "items"] ∧
      (∃ s, (Site.mk ⟨RouteTable.standard.routes.reverse, false⟩ .standard).dispatch
          "//Order/%2f7//items/" = .ok (.rendered s) ∧
        s.route = "order" ∧ s.params = ⟨[("orderId", "%2f7")]⟩) ∧
      (Site.mk ⟨RouteTable.standard.routes.reverse, false⟩ .standard).dispatch "/order/" =
        .ok (.noMatch "/order/") := by
  have hperm := RouteTable.standard.routes.reverse_perm
  have hsegments : Path.segments "//Order/%2f7//items/" = ["Order", "%2f7", "items"] := by
    decide +kernel
  have hnone : Path.segments "/order/" = ["order"] := by decide +kernel
  obtain ⟨_, _, _, _, _, hshown⟩ := decides_every_path hperm "//Order/%2f7//items/"
  obtain ⟨_, _, _, _, _, hmissing⟩ := decides_every_path hperm "/order/"
  refine ⟨hperm, hsegments, ?shown, hmissing.nothing.2 ?missing⟩
  case shown =>
    have hbelow : Path.IsBelow "order" (Path.segments "//Order/%2f7//items/") :=
      ⟨"Order", ["%2f7", "items"], hsegments, by decide⟩
    obtain ⟨s, hs, hroute⟩ := hshown.order.2 ⟨hbelow, by rw [hsegments]; decide⟩
    obtain ⟨id, hid, hparams⟩ := hshown.orderId s hs hroute
    rw [hsegments] at hid
    cases hid
    exact ⟨s, hs, hroute, hparams⟩
  case missing =>
    rw [hnone]
    have hfirst : ∀ word, Path.IsBelow word ["order"] →
        Text.foldCase "order" = Text.foldCase word := by
      rintro word ⟨first, rest, hsegs, hword⟩
      cases hsegs
      exact hword
    refine ⟨nofun, fun h => ?_, fun h => ?_, fun h => ?_, fun h => absurd h.2 (by decide)⟩ <;>
      exact absurd (hfirst _ h) (by decide)

end Site

end PageRouter
