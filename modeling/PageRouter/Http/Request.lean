import PageRouter.Http.Uri

/-!
# Requests

A request names a target and a method and carries headers.  Names of headers compare without regard to case,
and of a header that is given more than once the first counts.
-/

set_option autoImplicit false

namespace PageRouter.Http

/-- The headers of a request, in order. -/
structure Headers where
  fields : List (String × String)
deriving DecidableEq, Repr

namespace Headers

/-- The value of the first header of a name. -/
def get? (h : Headers) (name : String) : Option String :=
  (h.fields.find? fun f => Text.agree false f.1 name).map (·.2)

/-- The header that identifies a request. -/
def requestIdName : String := "x-request-id"

/-- Whether a header value can be shown as it is: visible ASCII, blanks and tabs. -/
def isShowable (value : String) : Bool :=
  value.toList.all fun c => c == '\t' || (0x20 ≤ c.toNat && c.toNat ≤ 0x7E)

/-- The identifier of a request as it is shown, or a stand-in when there is none that can be shown. -/
def shownId (h : Headers) : String :=
  ((h.get? requestIdName).filter isShowable).getD "unknown"

end Headers

/-- A request without a body. -/
structure Request where
  uri : Uri
  method : String
  headers : Headers
deriving DecidableEq, Repr

end PageRouter.Http
