import PageRouter.Lifecycle.Broadcast

/-!
# Shutdown

A shutdown is announced to everyone who waits for it.  It has handles, through each of which it can
be announced and waited for, and it has waits.  A wait is over once an announcement was made after
the wait began, or once no handle is left from which one could come; it notices only when it is
polled.

Announcements go through a broadcast that keeps one of them.  A wait is a receiver of it: it is over
with whatever it finds, be that an announcement, that it has missed some, or that there are no more
handles.
-/

set_option autoImplicit false

namespace PageRouter

namespace Shutdown

/-- Someone who waits for the shutdown. -/
inductive Wait where
  /-- Waiting, as a receiver of announcements. -/
  | pending (receiver : Broadcast.Receiver)
  /-- Told, or no longer interested. -/
  | ended
deriving DecidableEq, Repr

def Wait.isPending : Wait → Bool
  | .pending _ => true
  | .ended => false

end Shutdown

/-- The state of a shutdown: for each handle whether it is still there, the broadcast of
announcements, and the waits. -/
structure Shutdown where
  handles : List Bool
  channel : Broadcast Unit
  waits : List Shutdown.Wait
deriving DecidableEq, Repr

namespace Shutdown

/-- A shutdown with one handle, of which nobody knows yet. -/
def new : Shutdown := ⟨[true], .create 1, []⟩

/-- Whether a handle is still there. -/
def hasHandle (s : Shutdown) (h : Nat) : Bool := s.handles[h]?.getD false

/-- Whether any handle is still there. -/
def isReachable (s : Shutdown) : Bool := s.handles.any id

/-- How many are waiting, as the broadcast counts them. -/
def listeners (s : Shutdown) : Nat := s.channel.receivers

/-- The number of listeners as a handle shows it, if it is still there. -/
def listenersAt? (s : Shutdown) (h : Nat) : Option Nat :=
  if s.hasHandle h then some s.listeners else none

/-- The number of listeners as some handle shows it, as long as there is a handle. -/
def listeners? (s : Shutdown) : Option Nat := if s.isReachable then some s.listeners else none

/-- Begin to wait.  The new wait is the last one. -/
def subscribe (s : Shutdown) : Shutdown :=
  let (receiver, channel) := s.channel.subscribe
  { s with channel, waits := s.waits ++ [.pending receiver] }

/-- Announce the shutdown, whether anybody hears of it or not. -/
def trigger (s : Shutdown) : Shutdown := { s with channel := (s.channel.send ()).2 }

/-- Make one more handle, which is the last one. -/
def clone (s : Shutdown) : Shutdown :=
  { s with handles := s.handles ++ [true], channel := s.channel.addSender }

/-- Give a handle up. -/
def dropHandle (s : Shutdown) (h : Nat) : Shutdown :=
  { s with handles := s.handles.set h false, channel := s.channel.dropSender }

/-- End a wait, which then receives no more. -/
def endWait (s : Shutdown) (w : Nat) : Shutdown :=
  { s with waits := s.waits.set w .ended, channel := s.channel.unsubscribe }

/-- What can be done with a shutdown.  The first number of an operation is that of its handle or its
wait. -/
inductive Op where
  | subscribe (handle : Nat)
  | trigger (handle : Nat)
  | clone (handle : Nat)
  | drop (handle : Nat)
  /-- Look whether a wait is over. -/
  | poll (wait : Nat)
  | cancel (wait : Nat)
deriving DecidableEq, Repr

/-- What is answered. -/
inductive Reply where
  | nothing
  /-- The number of a new handle or wait. -/
  | number (n : Nat)
  | pending
  | done
  /-- There is no such handle or wait, or there no longer is. -/
  | gone
deriving DecidableEq, Repr

/-- Do something that needs a handle. -/
def withHandle (s : Shutdown) (h : Nat) (reply : Reply) (next : Shutdown) : Reply × Shutdown :=
  if s.hasHandle h then (reply, next) else (.gone, s)

/-- Do one thing. -/
def step (s : Shutdown) : Op → Reply × Shutdown
  | .subscribe h => s.withHandle h (.number s.waits.length) s.subscribe
  | .trigger h => s.withHandle h .nothing s.trigger
  | .clone h => s.withHandle h (.number s.handles.length) s.clone
  | .drop h => s.withHandle h .nothing (s.dropHandle h)
  | .poll w =>
    match s.waits[w]? with
    | some (.pending receiver) =>
      if (s.channel.receive receiver).1 = .empty then (.pending, s) else (.done, s.endWait w)
    | _ => (.gone, s)
  | .cancel w =>
    match s.waits[w]? with
    | some (.pending _) => (.nothing, s.endWait w)
    | _ => (.gone, s)

/-- Do several things one after the other, and give each answer with the state after it. -/
def run (s : Shutdown) : List Op → List (Reply × Shutdown)
  | [] => []
  | op :: ops =>
    let (reply, next) := s.step op
    (reply, next) :: run next ops

end Shutdown

end PageRouter
