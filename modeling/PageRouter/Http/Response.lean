import PageRouter.Page
import PageRouter.Site.Basic

/-!
# Responses

The responses that a server gives.  The length that a response announces is that of the body that a `GET` of
the same target has, so that a `HEAD` announces it without the body.
-/

set_option autoImplicit false

namespace PageRouter.Http

/-- The identifier that a response carries. -/
inductive RequestId where
  /-- The identifier that came with the request. -/
  | given (id : String)
  /-- A fresh one, since none came with the request. -/
  | generated
deriving DecidableEq, Repr

/-- What a request is answered, apart from its identifier. -/
structure Answer where
  status : Nat
  contentType : Option String
  contentLength : Nat
  /-- The methods that are allowed, when the method of the request is not. -/
  allow : Option String
  body : String
deriving DecidableEq, Repr

/-- A whole response. -/
structure Response where
  answer : Answer
  requestId : RequestId
deriving DecidableEq, Repr

namespace Answer

/-- An answer with a body of some type. -/
def ofBody (status : Nat) (contentType body : String) : Answer :=
  ⟨status, some contentType, body.utf8ByteSize, none, body⟩

def html (status : Nat) (body : String) : Answer := ofBody status "text/html; charset=utf-8" body

def plain (status : Nat) (body : String) : Answer := ofBody status "text/plain; charset=utf-8" body

/-- An answer without a body. -/
def bare (status : Nat) (allow : Option String) : Answer := ⟨status, none, 0, allow, ""⟩

/-- The answer that shows a screen. -/
def ofScreen (s : Screen) : Answer := html 200 (Page.ofScreen s).html

/-- The answer for a path that no route matches. -/
def notFound : Answer := plain 404 "Not Found"

/-- The answer for a route that could not be shown.  It is the same for every cause. -/
def renderFailed (_ : Site.Failure) : Answer := plain 500 "Render failed"

/-- The answer to a method other than `GET` and `HEAD`. -/
def methodNotAllowed : Answer := bare 405 (some "GET,HEAD")

/-- The answer for a target that has no path. -/
def noPath : Answer := bare 404 none

/-- The answer for the outcome of a visit. -/
def ofOutcome : Except Site.Failure Outcome → Answer
  | .ok (.rendered screen) => ofScreen screen
  | .ok (.noMatch _) => notFound
  | .error e => renderFailed e

/-- The answer to `HEAD` where this is the answer to `GET`. -/
def withoutBody (a : Answer) : Answer := { a with body := "" }

end Answer

end PageRouter.Http
