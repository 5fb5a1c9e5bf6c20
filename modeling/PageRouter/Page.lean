import PageRouter.Markup
import PageRouter.Screen

/-!
# Pages

`Page.ofScreen` puts a screen into a whole HTML document.  The body of a view is HTML already; a fixed text
becomes an escaped paragraph.  The name of the route is the title, and an attribute of the main element.
-/

set_option autoImplicit false

namespace PageRouter.Page

/-- The content of the main element. -/
def content (s : Screen) : Markup :=
  if s.view.isSome then .trusted s.body else .element "p" [] (.text s.body)

/-- The document that shows a screen. -/
def ofScreen (s : Screen) : Markup :=
  .trusted "<!DOCTYPE html>" ++
    .element "html" []
      (.element "head" []
          (.voidElement "meta" [("charset", "utf-8")] ++ .element "title" [] (.text s.route)) ++
        .element "body" [] (.element "main" [("data-route", s.route)] (content s)))

end PageRouter.Page
