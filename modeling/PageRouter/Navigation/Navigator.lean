import PageRouter.Location
import PageRouter.Navigation.Channel

/-!
# Navigators

A navigator holds the current location and the locations to go back to.  It alone changes the
current location, and observers of its channel see each change.  Going to where one already is
changes nothing; replacing the location always counts as a change and never touches the history.
-/

set_option autoImplicit false

namespace PageRouter

/-- The current location, and those to go back to, last first. -/
structure Navigator where
  current : Channel Location
  history : List Location
deriving DecidableEq, Repr

namespace Navigator

/-- A navigator at a location, with nothing to go back to. -/
def new (initial : Location) : Navigator := ⟨.create initial, []⟩

/-- A navigator at the root. -/
def standard : Navigator := new .root

/-- A navigator at the location that a text stands for. -/
def start (url : String) : Except Location.Fault Navigator := do
  return new (← Location.parse url)

/-- Where the navigator stands. -/
def location (n : Navigator) : Location := n.current.value

/-- Go to a location, unless the navigator is already there. -/
def pushTo (n : Navigator) (next : Location) : Bool × Navigator :=
  if n.location = next then (false, n)
  else (true, ⟨n.current.send next, n.location :: n.history⟩)

/-- Go to the location that a text stands for, and say whether that was a move. -/
def push (n : Navigator) (url : String) : Except Location.Fault (Bool × Navigator) := do
  return n.pushTo (← Location.parse url)

/-- Put a location in the place of the current one. -/
def replaceBy (n : Navigator) (next : Location) : Navigator :=
  ⟨n.current.send next, n.history⟩

/-- Put the location that a text stands for in the place of the current one. -/
def replace (n : Navigator) (url : String) : Except Location.Fault Navigator := do
  return n.replaceBy (← Location.parse url)

/-- Go back to the last location of the history, if there is one. -/
def back (n : Navigator) : Bool × Navigator :=
  match n.history with
  | [] => (false, n)
  | previous :: history => (true, ⟨n.current.send previous, history⟩)

def canGoBack (n : Navigator) : Bool := !n.history.isEmpty

def historySize (n : Navigator) : Nat := n.history.length

/-! ## Going and coming back -/

theorem fst_back_eq_canGoBack (n : Navigator) : n.back.1 = n.canGoBack := by
  obtain ⟨c, h⟩ := n
  cases h <;> rfl

end Navigator

end PageRouter
