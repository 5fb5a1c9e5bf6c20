import PageRouter.Navigation.Navigator
import PageRouter.Site.Basic

/-!
# Sessions

A session is a navigator with its observers.  A shell is an observer that shows what a site has at
the current location; a subscriber reads the location itself.  Shells and subscribers come one by
one and are known by their number.

When the navigator is gone, shells and subscribers stay: a subscriber still reads the last location,
a shell still shows it, is told of a change that it has not seen, and after that is told that there
will be no more.
-/

set_option autoImplicit false

namespace PageRouter

/-- A navigator with its shells and subscribers. -/
structure Session where
  navigator : Navigator
  /-- Whether the navigator is still there. -/
  isOpen : Bool
  shells : List Observer
  subscribers : List Observer
deriving DecidableEq, Repr

namespace Session

/-- What can be done in a session. -/
inductive Op where
  | push (url : String)
  | replace (url : String)
  | back
  /-- A new shell. -/
  | attach
  /-- A new subscriber. -/
  | subscribe
  /-- Whether a subscriber has something unseen. -/
  | hasChanged (subscriber : Nat)
  /-- The location, which the subscriber then has seen. -/
  | read (subscriber : Nat)
  /-- What a shell shows at the current location, which it then has seen. -/
  | render (shell : Nat)
  /-- What a shell shows at some path. -/
  | renderPath (shell : Nat) (path : String)
  /-- The location, without having seen it. -/
  | location (shell : Nat)
  /-- Ask whether a shell has something unseen, and show it. -/
  | changed (shell : Nat)
  /-- Take the navigator away. -/
  | drop
deriving DecidableEq, Repr

/-- What a session answers. -/
inductive Reply where
  | nothing
  | flag (b : Bool)
  /-- The number of a new shell or subscriber. -/
  | number (n : Nat)
  | location (l : Location)
  | outcome (result : Except Site.Failure Outcome)
  | fault (cause : Location.Fault)
  /-- Nothing is unseen, and something may come. -/
  | pending
  /-- Nothing is unseen, and nothing will come. -/
  | closed
  /-- The navigator is gone. -/
  | dropped
  /-- There is no such shell or subscriber. -/
  | unknown

/-- A session around a navigator, with one shell. -/
def new (n : Navigator) : Session := ⟨n, true, [n.current.observe], []⟩

/-- Let an observer see the value as it is now. -/
def seeNow (n : Navigator) (observers : List Observer) (i : Nat) : List Observer :=
  observers.set i n.current.observe

/-- What a site has at the current location. -/
def outcomeHere (site : Site) (n : Navigator) : Reply := .outcome (site.dispatch n.location.path)

/-- Do something that needs the navigator. -/
def navigate (s : Session) (f : Session → Reply × Session) : Reply × Session :=
  if s.isOpen then f s else (.dropped, s)

/-- Do one thing in a session. -/
def step (site : Site) (s : Session) : Op → Reply × Session
  | .push url => s.navigate fun s =>
    match s.navigator.push url with
    | .ok (moved, n) => (.flag moved, { s with navigator := n })
    | .error e => (.fault e, s)
  | .replace url => s.navigate fun s =>
    match s.navigator.replace url with
    | .ok n => (.nothing, { s with navigator := n })
    | .error e => (.fault e, s)
  | .back => s.navigate fun s =>
    let (moved, n) := s.navigator.back
    (.flag moved, { s with navigator := n })
  | .attach => s.navigate fun s =>
    (.number s.shells.length, { s with shells := s.shells ++ [s.navigator.current.observe] })
  | .subscribe => s.navigate fun s =>
    (.number s.subscribers.length,
      { s with subscribers := s.subscribers ++ [s.navigator.current.observe] })
  | .hasChanged i => s.navigate fun s =>
    match s.subscribers[i]? with
    | some o => (.flag (s.navigator.current.isUnseen o), s)
    | none => (.unknown, s)
  | .read i =>
    match s.subscribers[i]? with
    | some _ => (.location s.navigator.location,
        { s with subscribers := seeNow s.navigator s.subscribers i })
    | none => (.unknown, s)
  | .render i =>
    match s.shells[i]? with
    | some _ => (outcomeHere site s.navigator, { s with shells := seeNow s.navigator s.shells i })
    | none => (.unknown, s)
  | .renderPath i path =>
    match s.shells[i]? with
    | some _ => (.outcome (site.dispatch path), s)
    | none => (.unknown, s)
  | .location i =>
    match s.shells[i]? with
    | some _ => (.location s.navigator.location, s)
    | none => (.unknown, s)
  | .changed i =>
    match s.shells[i]? with
    | some o =>
      if s.navigator.current.isUnseen o then
        (outcomeHere site s.navigator, { s with shells := seeNow s.navigator s.shells i })
      else (if s.isOpen then .pending else .closed, s)
    | none => (.unknown, s)
  | .drop => (.nothing, { s with isOpen := false })

/-- Do several things one after the other, and give each answer with the session after it. -/
def run (site : Site) (s : Session) : List Op → List (Reply × Session)
  | [] => []
  | op :: ops =>
    let (reply, next) := s.step site op
    (reply, next) :: run site next ops

end Session

end PageRouter
