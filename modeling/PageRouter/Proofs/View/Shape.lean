import PageRouter.Proofs.Markup
import PageRouter.Proofs.Result
import PageRouter.Proofs.View.Fetching

/-!
# The shape of a view

A view renders itself from the parameters of a path, and those say whatever the visitor likes.
`View.HasFixedShape` says that they have no say in the tags and attributes that come out.  The
standard pages are of that kind: three of them do not look at their parameters, and the page of an
order shows its identifier as text.
-/

set_option autoImplicit false

namespace PageRouter.View

/-- A view whose renderings have the same delimiters for all parameters. -/
def HasFixedShape (v : View) : Prop :=
  ∀ ⦃params params' : Params⦄ ⦃m m' : Markup⦄,
    v.render params = .ok m → v.render params' = .ok m' → m.delimiters = m'.delimiters

theorem hasFixedShape_heading (key title : String) : (heading key title).HasFixedShape := by
  intro _ _ m m' h h'
  rw [← Except.ok.inj h, ← Except.ok.inj h']

/-! ## The page of an order -/

/-- The paragraph that shows the identifier of an order. -/
def orderParagraph (id : String) : Markup := .element "p" [("class", "order-id")] (.text id)

/-- The page of an order is the frame of a page around the identifier that it was given. -/
theorem render_order_eq_ok_iff {params : Params} {m : Markup} :
    order.render params = .ok m ↔
      ∃ id, params.get? "orderId" = some id ∧ page "order" "Order" (orderParagraph id) = m :=
  Result.bind_pure_eq_ok_iff.trans
    (exists_congr fun _ => and_congr_left fun _ => fetch_eq_ok_iff)

theorem hasFixedShape_order : order.HasFixedShape := by
  intro _ _ m m' h h'
  obtain ⟨id, _, rfl⟩ := render_order_eq_ok_iff.1 h
  obtain ⟨id', _, rfl⟩ := render_order_eq_ok_iff.1 h'
  have hparagraph : (orderParagraph id).delimiters = (orderParagraph id').delimiters :=
    Markup.delimiters_element_congr rfl (by rw [Markup.delimiters_text, Markup.delimiters_text])
  refine Markup.delimiters_element_congr rfl ?_
  rw [Markup.delimiters_append, Markup.delimiters_append, hparagraph]

/-- The page of an order, written out around the identifier. -/
theorem html_orderPage (id : String) :
    (page "order" "Order" (orderParagraph id)).html =
      "<section class=\"page\" data-view=\"order\"><h1>Order</h1><p class=\"order-id\">" ++
        Markup.escape id ++ "</p></section>" := by
  have hpage : Markup.escape "page" = "page" := by decide
  have hkey : Markup.escape "order" = "order" := by decide
  have htitle : Markup.escape "Order" = "Order" := by decide
  have hclass : Markup.escape "order-id" = "order-id" := by decide
  refine String.toList_injective ?_
  simp [page, orderParagraph, Markup.element, Markup.attributes, Markup.text, hpage, hkey, htitle,
    hclass]

/-! ## The standard pages -/

/-- **No parameter has a say in the tags of a standard page.** -/
theorem hasFixedShape_of_mem_standard {v : View} (h : v ∈ standard) : v.HasFixedShape := by
  simp only [standard, List.mem_cons, List.not_mem_nil, or_false] at h
  rcases h with rfl | rfl | rfl | rfl
  · exact hasFixedShape_heading _ _
  · exact hasFixedShape_heading _ _
  · exact hasFixedShape_heading _ _
  · exact hasFixedShape_order

theorem Registry.find?_standard_order : Registry.standard.find? "order" = some order := by
  simp [standard, ofList, View.standard, find?_insert, order]

theorem Registry.hasFixedShape_of_mem_standard {v : View} (h : v ∈ Registry.standard.views) :
    v.HasFixedShape :=
  View.hasFixedShape_of_mem_standard (Registry.mem_of_mem_ofList h)

end PageRouter.View
