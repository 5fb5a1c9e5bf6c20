import PageRouter.Lifecycle.Shutdown
import PageRouter.Proofs.Run

/-!
# What happens in a shutdown

What a run of a shutdown has done can be read off its trace: which handles were made and given up,
which waits began and ended, and whether it was announced since a wait began.

* `effect_step`: what a step may answer, and what it then leaves.
-/

set_option autoImplicit false

namespace PageRouter.Shutdown

/-! ## What a trace tells -/

/-- A step and what was answered. -/
abbrev Event : Type := Op × Reply

/-- The handle that a step has made. -/
def opened? : Event → Option Nat
  | (.clone _, .number h) => some h
  | _ => none

/-- Whether a step has given a handle up. -/
def givesUp (h : Nat) : Event → Bool
  | (.drop h', .nothing) => h' == h
  | _ => false

/-- The wait that a step has begun. -/
def begun? : Event → Option Nat
  | (.subscribe _, .number w) => some w
  | _ => none

/-- Whether a step has ended a wait: it was found to be over, or it was cancelled. -/
def ends (w : Nat) : Event → Bool
  | (.poll w', .done) => w' == w
  | (.cancel w', .nothing) => w' == w
  | _ => false

/-- Whether a step was an announcement. -/
def announces : Event → Bool
  | (.trigger _, .nothing) => true
  | _ => false

/-- The handles that are left after a run: the first one, and those that were made, but for those
given up. -/
def handlesLeft (t : List Event) : List Nat :=
  (0 :: t.filterMap opened?).filter fun h => !t.any (givesUp h)

/-- The waits that are still there after a run: those that were begun, but for those that have
ended. -/
def waitsLeft (t : List Event) : List Nat :=
  (t.filterMap begun?).filter fun w => !t.any (ends w)

/-- There was an announcement since a wait began. -/
def AnnouncedSince (t : List Event) (w : Nat) : Prop :=
  ∃ before x later, t = before ++ x :: later ∧ w ∈ before.filterMap begun? ∧ announces x = true

theorem mem_begun_of_announcedSince {t : List Event} {w : Nat} (hsince : AnnouncedSince t w) :
    w ∈ t.filterMap begun? := by
  obtain ⟨before, x, later, rfl, hbegun, _⟩ := hsince
  rw [List.filterMap_append]
  exact List.mem_append_left _ hbegun

/-- One more step counts for the waits that began before it. -/
theorem announcedSince_append_singleton {t : List Event} {x : Event} {w : Nat} :
    AnnouncedSince (t ++ [x]) w ↔
      AnnouncedSince t w ∨ (w ∈ t.filterMap begun? ∧ announces x = true) := by
  rw [AnnouncedSince, Run.exists_split_append_singleton]
  exact Or.comm

/-! ## What a step can do -/

/-- What a step may answer, and what it then leaves. -/
inductive Effect (s : Shutdown) : Event → Shutdown → Prop where
  | subscribed {h : Nat} (hh : s.hasHandle h = true) :
    Effect s (.subscribe h, .number s.waits.length) s.subscribe
  | announced {h : Nat} (hh : s.hasHandle h = true) : Effect s (.trigger h, .nothing) s.trigger
  | cloned {h : Nat} (hh : s.hasHandle h = true) :
    Effect s (.clone h, .number s.handles.length) s.clone
  | dropped {h : Nat} (hh : s.hasHandle h = true) :
    Effect s (.drop h, .nothing) (s.dropHandle h)
  | told {w : Nat} {r : Broadcast.Receiver} (hw : s.waits[w]? = some (.pending r))
      (hr : (s.channel.receive r).1 ≠ .empty) : Effect s (.poll w, .done) (s.endWait w)
  | pending {w : Nat} : Effect s (.poll w, .pending) s
  | cancelled {w : Nat} {r : Broadcast.Receiver} (hw : s.waits[w]? = some (.pending r)) :
    Effect s (.cancel w, .nothing) (s.endWait w)
  | gone {op : Op} : Effect s (op, .gone) s

theorem effect_withHandle {s next : Shutdown} {h : Nat} {op : Op} {reply : Reply}
    (heffect : s.hasHandle h = true → Effect s (op, reply) next) :
    Effect s (op, (s.withHandle h reply next).1) (s.withHandle h reply next).2 := by
  rw [withHandle]
  split
  · rename_i hh
    exact heffect hh
  · exact .gone

/-- **What a step can do**, whichever it is. -/
theorem effect_step (s : Shutdown) (op : Op) : Effect s (op, (s.step op).1) (s.step op).2 := by
  cases op with
  | subscribe h => exact effect_withHandle .subscribed
  | trigger h => exact effect_withHandle .announced
  | clone h => exact effect_withHandle .cloned
  | drop h => exact effect_withHandle .dropped
  | poll w =>
    rw [step]
    split
    · rename_i r hw
      split
      · exact .pending
      · rename_i hr
        exact .told hw hr
    · exact .gone
  | cancel w =>
    rw [step]
    split
    · rename_i r hw
      exact .cancelled hw
    · exact .gone

theorem step_poll_of_pending {s : Shutdown} {w : Nat} {r : Broadcast.Receiver}
    (hw : s.waits[w]? = some (.pending r)) :
    (s.step (.poll w)).1 = if (s.channel.receive r).1 = .empty then .pending else .done := by
  rw [step, hw]
  show (if _ then (Reply.pending, s) else (Reply.done, s.endWait w)).1 = _
  split <;> rfl

end PageRouter.Shutdown
