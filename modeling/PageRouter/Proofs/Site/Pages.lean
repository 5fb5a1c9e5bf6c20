import PageRouter.Proofs.Page
import PageRouter.Proofs.View.Shape
import PageRouter.Site.Basic

/-!
# The pages of a site

Routes are named by whoever configures a site, and its visitors choose the paths.  Neither gets
markup into a page that way: the tags and attributes of a page are settled by the view that is
shown, and what stands between them is read back as it was given.

* `dispatch_eq_rendered_iff`: the screen that is shown at a path.
* `Shows.delimiters_content`: views of a fixed shape that are shown under one key bring in the same
  delimiters, whatever routes they are shown by.
* `Shows.orderId?_ofScreen`: the page of an order gives the identifier that its path bound.
* `injects_nothing`: the pages of the standard views, in full.
-/

set_option autoImplicit false

namespace PageRouter

namespace Site

/-! ## Screens and where they come from -/

/-- A screen shows a match: the fixed text of its route, or the view of its route as it is rendered
for the parameters that were bound. -/
inductive Shows (views : View.Registry) (m : RouteMatch) : Screen → Prop where
  | text {body : String} (htarget : m.route.target = .text body) :
    Shows views m ⟨m.route.name, none, m.params, body⟩
  | view {key : String} {view : View} {markup : Markup} (htarget : m.route.target = .view key)
    (hfind : views.find? key = some view) (hrender : view.render m.params = .ok markup) :
    Shows views m ⟨m.route.name, some key, m.params, markup.html⟩

theorem shows_of_bodyOf {site : Site} {m : RouteMatch} {body : String}
    (h : site.bodyOf m.route m.params = .ok body) :
    Shows site.views m ⟨m.route.name, viewKey? m.route.target, m.params, body⟩ := by
  rw [bodyOf] at h
  cases htarget : m.route.target with
  | text text =>
    rw [htarget] at h
    cases h
    exact .text htarget
  | view key =>
    rw [htarget] at h
    cases hfind : site.views.find? key with
    | none => simp [hfind] at h
    | some view =>
      cases hrender : view.render m.params with
      | error e => simp [hfind, hrender] at h
      | ok markup =>
        simp only [hfind, hrender] at h
        cases h
        exact .view htarget hfind hrender

theorem bodyOf_of_shows {site : Site} {m : RouteMatch} {s : Screen} (h : Shows site.views m s) :
    ∃ body, site.bodyOf m.route m.params = .ok body ∧
      s = ⟨m.route.name, viewKey? m.route.target, m.params, body⟩ := by
  cases h with
  | @text body htarget =>
    exact ⟨body, by rw [bodyOf, htarget], by rw [htarget, viewKey?]⟩
  | @view _ _ markup htarget hfind hrender =>
    exact ⟨markup.html, by simp [bodyOf, htarget, hfind, hrender], by rw [htarget, viewKey?]⟩

/-- The screen at a path shows the match of that path. -/
theorem dispatch_eq_rendered_iff {site : Site} {path : String} {s : Screen} :
    site.dispatch path = .ok (.rendered s) ↔
      ∃ m, site.table.resolve path = some m ∧ Shows site.views m s := by
  rw [dispatch, visit]
  cases hm : site.table.resolve path with
  | none => simp
  | some m =>
    simp only [Option.some.injEq, exists_eq_left']
    constructor
    · intro h
      cases hbody : site.bodyOf m.route m.params with
      | error e => simp [hbody] at h
      | ok body =>
        simp only [hbody] at h
        cases h
        exact shows_of_bodyOf hbody
    · intro h
      obtain ⟨body, hbody, rfl⟩ := bodyOf_of_shows h
      simp only [hbody]

namespace Shows

variable {views : View.Registry} {m m' : RouteMatch} {s s' : Screen}

theorem route_eq (h : Shows views m s) : s.route = m.route.name := by
  cases h <;> rfl

/-! ## The shape of a page -/

/-- **What is shown under one key has one shape**, if the views have. -/
theorem delimiters_content (hshape : ∀ v ∈ views.views, v.HasFixedShape) (h : Shows views m s)
    (h' : Shows views m' s') (hview : s.view = s'.view) :
    (Page.content s).delimiters = (Page.content s').delimiters := by
  cases h with
  | text _ =>
    cases h' with
    | text _ => exact Page.delimiters_content_of_text rfl rfl
    | view _ _ _ => exact nomatch hview
  | view _ hfind hrender =>
    cases h' with
    | text _ => exact nomatch hview
    | view _ hfind' hrender' =>
      cases hview
      rw [hfind] at hfind'
      cases hfind'
      exact hshape _ (List.mem_of_find?_eq_some hfind) hrender hrender'

/-! ## What is read back -/

/-- A fixed text is read back from the page that shows it. -/
theorem paragraph?_ofScreen {body : String} (h : Shows views m s)
    (htarget : m.route.target = .text body) :
    Page.paragraph? (Page.ofScreen s) = some body := by
  cases h with
  | text htext =>
    rw [htext] at htarget
    cases htarget
    exact Page.paragraph?_ofScreen rfl
  | view hkey _ _ =>
    rw [hkey] at htarget
    exact nomatch htarget

/-- **The identifier of an order is read back from the page that shows it**, as it stood in the
path. -/
theorem orderId?_ofScreen (hfind : views.find? "order" = some View.order) (h : Shows views m s)
    (htarget : m.route.target = .view "order") :
    ∃ id, m.params.get? "orderId" = some id ∧
      Page.orderId? (Page.ofScreen s) = some id := by
  cases h with
  | text htext =>
    rw [htext] at htarget
    exact nomatch htarget
  | view hkey hview hrender =>
    rw [hkey] at htarget
    cases htarget
    rw [hfind] at hview
    cases hview
    obtain ⟨id, hid, rfl⟩ := View.render_order_eq_ok_iff.1 hrender
    refine ⟨id, hid, ?_⟩
    exact Page.valueBehind?_ofScreen rfl (by decide) (by decide) rfl rfl (by decide)
      (View.html_orderPage id)

end Shows

/-! ## The standard pages -/

/-- **Nothing is injected into the pages of the standard views.** -/
theorem injects_nothing {t t' : RouteTable} {path path' : String} {s s' : Screen}
    (h : (Site.mk t .standard).dispatch path = .ok (.rendered s))
    (h' : (Site.mk t' .standard).dispatch path' = .ok (.rendered s')) :
    (s.view = s'.view →
      (Page.ofScreen s).delimiters = (Page.ofScreen s').delimiters) ∧
    ∃ m, t.resolve path = some m ∧
      Page.title? (Page.ofScreen s) = some m.route.name ∧
      Page.routeName? (Page.ofScreen s) = some m.route.name ∧
      (∀ body, m.route.target = .text body → Page.paragraph? (Page.ofScreen s) = some body) ∧
      (m.route.target = .view "order" →
        ∃ id, m.params.get? "orderId" = some id ∧ Page.orderId? (Page.ofScreen s) = some id) := by
  obtain ⟨m, hm, hs⟩ := dispatch_eq_rendered_iff.1 h
  obtain ⟨m', _, hs'⟩ := dispatch_eq_rendered_iff.1 h'
  refine ⟨fun hview => Page.delimiters_ofScreen_congr ?shape, m, hm, ?title, ?named,
    fun body => hs.paragraph?_ofScreen, hs.orderId?_ofScreen View.Registry.find?_standard_order⟩
  case shape =>
    exact hs.delimiters_content (fun _ => View.Registry.hasFixedShape_of_mem_standard) hs' hview
  case title => rw [Page.title?_ofScreen, hs.route_eq]
  case named => rw [Page.routeName?_ofScreen, hs.route_eq]

/-- The page of an order under a name that closes the attribute it stands in. -/
def oddTable : RouteTable where
  routes := [⟨"\"><b>&amp;", .ofSegments [.param "orderId"], true, .view "order"⟩]
  caseSensitive := true

/-- An order with an identifier that looks like markup, and like markup that is escaped. -/
def oddScreen : Screen where
  route := "\"><b>&amp;"
  view := some "order"
  params := ⟨[("orderId", "<i>&lt;\"")]⟩
  body := (View.page "order" "Order" (View.orderParagraph "<i>&lt;\"")).html

/-- An order as the application shows it. -/
def plainScreen : Screen where
  route := "order"
  view := some "order"
  params := ⟨[("orderId", "7")]⟩
  body := (View.page "order" "Order" (View.orderParagraph "7")).html

theorem injects_nothing_oddTable :
    (Site.mk oddTable .standard).dispatch "/<i>&lt;\"" = .ok (.rendered oddScreen) ∧
      (Site.mk .standard .standard).dispatch "/order/7" = .ok (.rendered plainScreen) ∧
      (Page.ofScreen oddScreen).delimiters = (Page.ofScreen plainScreen).delimiters ∧
      Page.title? (Page.ofScreen oddScreen) = some "\"><b>&amp;" ∧
      Page.routeName? (Page.ofScreen oddScreen) = some "\"><b>&amp;" ∧
      Page.orderId? (Page.ofScreen oddScreen) = some "<i>&lt;\"" := by
  have hresolve : oddTable.resolve "/<i>&lt;\"" =
      some ⟨⟨"\"><b>&amp;", .ofSegments [.param "orderId"], true, .view "order"⟩,
        ⟨[("orderId", "<i>&lt;\"")]⟩⟩ := by decide +kernel
  have hodd : (Site.mk oddTable .standard).dispatch "/<i>&lt;\"" = .ok (.rendered oddScreen) :=
    dispatch_eq_rendered_iff.2
      ⟨_, hresolve, .view rfl View.Registry.find?_standard_order
        (View.render_order_eq_ok_iff.2 ⟨_, rfl, rfl⟩)⟩
  have hplain : (Site.mk .standard .standard).dispatch "/order/7" = .ok (.rendered plainScreen) :=
    dispatch_eq_rendered_iff.2
      ⟨⟨⟨"order", .ofSegments [.literal "order", .param "orderId"], false, .view "order"⟩,
          ⟨[("orderId", "7")]⟩⟩,
        by decide +kernel, .view rfl View.Registry.find?_standard_order
          (View.render_order_eq_ok_iff.2 ⟨_, rfl, rfl⟩)⟩
  obtain ⟨hshape, m, hm, htitle, hname, _, hid⟩ := injects_nothing hodd hplain
  rw [hresolve] at hm
  cases hm
  obtain ⟨id, hbound, hshown⟩ := hid rfl
  cases hbound
  exact ⟨hodd, hplain, hshape rfl, htitle, hname, hshown⟩

end Site

end PageRouter
