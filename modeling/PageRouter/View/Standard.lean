import PageRouter.View.Basic

/-!
# The standard pages, and pages built from data

The application has four pages: user generation, maker, book and order.  Only the order page needs a
parameter.  `View.listing` and `View.tally` make further pages out of data, for tables that are put
together at run time.
-/

set_option autoImplicit false

namespace PageRouter.View

/-- The frame of a standard page: a section that carries the key, under a heading. -/
def page (key title : String) (content : Markup) : Markup :=
  .element "section" [("class", "page"), ("data-view", key)]
    (.element "h1" [] (.text title) ++ content)

/-- A standard page that shows its heading only. -/
def heading (key title : String) : View where
  key
  required := []
  render _ := .ok (page key title .empty)

/-- The landing page. -/
def userGeneration : View := heading "user_gen" "User Generation"

def maker : View := heading "maker" "Maker"

def book : View := heading "book" "Book"

/-- The page of one order, which it shows by its identifier. -/
def order : View where
  key := "order"
  required := ["orderId"]
  render params := do
    let id ← fetch "order" params "orderId"
    return page "order" "Order" (.element "p" [("class", "order-id")] (.text id))

/-- The four pages of the application. -/
def standard : List View := [userGeneration, maker, book, order]

/-! ## Pages built from data -/

/-- A page that fetches parameters in a given order and lists their values behind a text. -/
def listing (key : String) (required uses : List String) (text : String) : View where
  key
  required
  render params := do
    let values ← fetchAll key params uses
    return .element "div" [("data-view", key)]
      (.text text ++ .concat (values.map fun v => .element "b" [] (.text v)))

/-- A page that shows how many parameters it was given. -/
def tally (key : String) : View where
  key
  required := []
  render params := .ok (.element "p" [] (.text (toString params.size)))

end PageRouter.View
