import PageRouter.Page
import PageRouter.Proofs.Markup

/-!
# What a page shows of its screen

A page is put together from three fixed pieces of HTML, the name of the route, which it has twice,
and the content of its main element.  This file takes it apart again.

* `html_ofScreen`: the pieces of a page, in order.
* `delimiters_ofScreen_congr`: what tags and attributes a page has is a matter of the content alone.
* `title?_ofScreen`, `routeName?_ofScreen`: the name of the route is read back in both its places.
* `valueBehind?_ofScreen`: whatever is read back from the content is read back from the page.
-/

set_option autoImplicit false

namespace PageRouter.Page

open Markup

/-! ## Pieces -/

/-- A page up to its title. -/
def opening : String :=
  "<!DOCTYPE html><html><head><meta charset=\"utf-8\"><title>"

/-- A page between its title and the name of the route in its main element. -/
def middle : String :=
  "</title></head><body><main data-route=\""

/-- A page behind its content. -/
def closing : String :=
  "</main></body></html>"

/-- The pieces of a page. -/
theorem html_ofScreen (s : Screen) :
    (ofScreen s).html =
      opening ++ (escape s.route ++ (middle ++ (escape s.route ++ ("\">" ++
        ((content s).html ++ closing))))) := by
  have hcharset : (escape "utf-8").toList = "utf-8".toList := by decide
  refine String.toList_injective ?_
  simp [ofScreen, opening, middle, closing, element, voidElement, attributes, trusted, text,
    hcharset]

theorem toList_html_ofScreen (s : Screen) :
    (ofScreen s).html.toList =
      opening.toList ++ ((escape s.route).toList ++ (middle.toList ++ ((escape s.route).toList ++
        ("\">".toList ++ ((content s).html.toList ++ closing.toList))))) := by
  simp only [html_ofScreen, String.toList_append]

/-- **The tags and attributes of a page are those of its content**, in a frame that is the same for
all pages. -/
theorem delimiters_ofScreen_congr {s s' : Screen}
    (h : (content s).delimiters = (content s').delimiters) :
    (ofScreen s).delimiters = (ofScreen s').delimiters := by
  rw [delimiters, delimiters] at h
  simp only [delimiters, html_ofScreen, delimitersOf_append, delimitersOf_escape, h]

/-- A fixed text is one paragraph, whatever it says. -/
theorem delimiters_content_of_text {s s' : Screen} (h : s.view = none) (h' : s'.view = none) :
    (content s).delimiters = (content s').delimiters := by
  simp only [content, h, h', Option.isSome_none, Bool.false_eq_true, if_false]
  exact delimiters_element_congr rfl (by rw [delimiters_text, delimiters_text])

/-! ## Reading a page -/

/-- The title of a page. -/
def title? (page : Markup) : Option String := page.valueBehind? "<title>" '<'

/-- The name of the route that a page gives in its main element. -/
def routeName? (page : Markup) : Option String := page.valueBehind? "<main data-route=\"" '"'

/-- The first plain paragraph of a page. -/
def paragraph? (page : Markup) : Option String := page.valueBehind? "<p>" '<'

/-- The identifier of the order that a page shows. -/
def orderId? (page : Markup) : Option String := page.valueBehind? "<p class=\"order-id\">" '<'

theorem title?_ofScreen (s : Screen) : title? (ofScreen s) = some s.route := by
  have hopening : behind? "<title>".toList opening.toList = some [] := by decide
  have hfound := congrArg (behind? "<title>".toList) (toList_html_ofScreen s)
  rw [behind?_append hopening] at hfound
  exact valueBehind?_eq rfl rfl hfound

theorem routeName?_ofScreen (s : Screen) : routeName? (ofScreen s) = some s.route := by
  have hopening : isApart "<main data-route=\"".toList opening.toList = true := by decide
  have hmiddle : behind? "<main data-route=\"".toList middle.toList = some [] := by decide
  have hfound := congrArg (behind? "<main data-route=\"".toList) (toList_html_ofScreen s)
  rw [behind?_append_of_isApart hopening, behind?_append_of_isApart (isApart_escape rfl s.route),
    behind?_append hmiddle] at hfound
  exact valueBehind?_eq rfl rfl hfound

/-- **What is read back from the content is read back from the page**, behind a mark that opens a
tag other than those of the frame. -/
theorem valueBehind?_ofScreen {s : Screen} {mark front value back : String} {stop : Char}
    (hmark : mark.toList.head? = some '<') (hopening : isApart mark.toList opening.toList = true)
    (hmiddle : isApart mark.toList middle.toList = true) (hstop : isDelimiter stop = true)
    (hback : back.toList.head? = some stop) (hfront : behind? mark.toList front.toList = some [])
    (hcontent : (content s).html = front ++ escape value ++ back) :
    (ofScreen s).valueBehind? mark stop = some value := by
  have hquote : isApart mark.toList "\">".toList = true := by
    obtain ⟨tag, htag⟩ := List.head?_eq_some_iff.1 hmark
    simp [htag, isApart, List.isPrefixOf]
  have htail : (back.toList ++ closing.toList).head? = some stop := by
    rw [List.head?_append, hback, Option.some_or]
  refine valueBehind?_eq hstop htail ?_
  rw [toList_html_ofScreen, behind?_append_of_isApart hopening,
    behind?_append_of_isApart (isApart_escape hmark s.route), behind?_append_of_isApart hmiddle,
    behind?_append_of_isApart (isApart_escape hmark s.route), behind?_append_of_isApart hquote,
    hcontent, String.toList_append, String.toList_append, List.append_assoc, List.append_assoc,
    behind?_append hfront]

/-- A fixed text is read back from its page. -/
theorem paragraph?_ofScreen {s : Screen} (h : s.view = none) :
    paragraph? (ofScreen s) = some s.body := by
  have hopening : isApart "<p>".toList opening.toList = true := by decide
  have hmiddle : isApart "<p>".toList middle.toList = true := by decide
  have hfront : behind? "<p>".toList "<p>".toList = some [] := by decide
  have hcontent : (content s).html = "<p>" ++ escape s.body ++ "</p>" := by
    simp only [content, h, Option.isSome_none, Bool.false_eq_true, if_false]
    refine String.toList_injective ?_
    simp [element, attributes, text]
  exact valueBehind?_ofScreen rfl hopening hmiddle rfl rfl hfront hcontent

end PageRouter.Page
