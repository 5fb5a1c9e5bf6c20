import PageRouter.Text.AsciiCase
import PageRouter.Text.Number

/-!
# Log levels

How much is logged: nothing, errors only, and so on up to everything.  A level is named by its word, in any
case, or by its number.
-/

set_option autoImplicit false

namespace PageRouter.Log

inductive Level where
  | off
  | error
  | warn
  | info
  | debug
  | trace
deriving DecidableEq, Repr

namespace Level

/-- All levels, in the order of their numbers. -/
def all : List Level := [.off, .error, .warn, .info, .debug, .trace]

def word : Level → String
  | .off => "off"
  | .error => "error"
  | .warn => "warn"
  | .info => "info"
  | .debug => "debug"
  | .trace => "trace"

/-- The number that a text stands for; a plus sign may stand in front. -/
def number? (text : String) : Option Nat :=
  match text.toList with
  | '+' :: cs => Text.number? 10 cs
  | cs => Text.number? 10 cs

/-- The level that a word or a number names. -/
def ofText? (text : String) : Option Level :=
  match (number? text).bind fun n => all[n]? with
  | some level => some level
  | none => all.find? fun level => Text.agree false level.word text

end Level

end PageRouter.Log
