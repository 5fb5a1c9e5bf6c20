/-!
# Broadcasts

A broadcast hands each value to all who receive at the time when it is sent.  It keeps the last
values only, as many as its capacity, and never waits for anyone: a receiver that falls further
behind finds the values gone, and is told how many it has missed.  Where nobody receives, a value
goes nowhere.

* `receive_eq_empty_iff`: a receiver finds nothing only while it is up to date and more may come.
-/

set_option autoImplicit false

namespace PageRouter

/-- A broadcast with its senders and receivers, who are only counted. -/
structure Broadcast (α : Type) where
  capacity : Nat
  /-- How many values have been sent. -/
  sent : Nat
  /-- The last of them, the oldest first. -/
  kept : List α
  senders : Nat
  receivers : Nat
  length_kept : kept.length = min sent capacity
deriving DecidableEq, Repr

namespace Broadcast

/-- How far a receiver has come: the number of the value that it takes next. -/
structure Receiver where
  next : Nat
deriving DecidableEq, Repr

/-- What a receiver finds. -/
inductive Received (α : Type) where
  | value (v : α)
  /-- So many values were gone before the receiver could take them. -/
  | lagged (missed : Nat)
  /-- There is nothing, and nobody left to send. -/
  | closed
  /-- There is nothing yet. -/
  | empty
deriving DecidableEq, Repr

variable {α : Type}

/-- A broadcast with one sender, and nobody who receives. -/
def create (capacity : Nat) : Broadcast α where
  capacity
  sent := 0
  kept := []
  senders := 1
  receivers := 0
  length_kept := by simp

/-- The values that are kept when one more is sent. -/
def keep (b : Broadcast α) (v : α) : List α := (b.kept ++ [v]).drop (b.kept.length + 1 - b.capacity)

theorem length_keep (b : Broadcast α) (v : α) :
    (b.keep v).length = min (b.sent + 1) b.capacity := by
  have h := b.length_kept
  simp only [keep, List.length_drop, List.length_append, List.length_singleton]
  omega

/-- Send a value, and say whether anybody receives it. -/
def send (b : Broadcast α) (v : α) : Bool × Broadcast α :=
  if b.receivers = 0 then (false, b)
  else (true, { b with sent := b.sent + 1, kept := b.keep v, length_kept := b.length_keep v })

@[simp] theorem send_senders (b : Broadcast α) (v : α) : (b.send v).2.senders = b.senders := by
  rw [send]
  split <;> rfl

@[simp] theorem send_receivers (b : Broadcast α) (v : α) :
    (b.send v).2.receivers = b.receivers := by
  rw [send]
  split <;> rfl

theorem send_sent {b : Broadcast α} (v : α) (hreceivers : b.receivers ≠ 0) :
    (b.send v).2.sent = b.sent + 1 := by
  rw [send, if_neg hreceivers]

/-- One more receiver, who takes what is sent from now on. -/
def subscribe (b : Broadcast α) : Receiver × Broadcast α :=
  (⟨b.sent⟩, { b with receivers := b.receivers + 1 })

/-- One receiver less. -/
def unsubscribe (b : Broadcast α) : Broadcast α := { b with receivers := b.receivers - 1 }

/-- One more sender. -/
def addSender (b : Broadcast α) : Broadcast α := { b with senders := b.senders + 1 }

/-- One sender less. -/
def dropSender (b : Broadcast α) : Broadcast α := { b with senders := b.senders - 1 }

/-- The number of the oldest value that is kept. -/
def oldest (b : Broadcast α) : Nat := b.sent - b.kept.length

/-- What a receiver finds, and how far it has come then.  One that has missed values goes on with
the oldest that is kept. -/
def receive (b : Broadcast α) (r : Receiver) : Received α × Receiver :=
  if hnew : b.sent ≤ r.next then (if b.senders = 0 then .closed else .empty, r)
  else if hlag : r.next < b.oldest then (.lagged (b.oldest - r.next), ⟨b.oldest⟩)
  else
    have hkept : r.next - b.oldest < b.kept.length := by
      rw [oldest] at hlag ⊢
      omega
    (.value (b.kept.get ⟨r.next - b.oldest, hkept⟩), ⟨r.next + 1⟩)

/-- **Nothing sent is overlooked.**  A receiver finds nothing exactly when it has come to the end of
what was sent and there still is a sender; it does not matter how far it had fallen behind. -/
theorem receive_eq_empty_iff {b : Broadcast α} {r : Receiver} :
    (b.receive r).1 = .empty ↔ b.sent ≤ r.next ∧ b.senders ≠ 0 := by
  rw [receive]
  split
  · rename_i hnew
    by_cases hsenders : b.senders = 0 <;> simp [hnew, hsenders]
  · rename_i hnew
    split <;> simp [hnew]

end Broadcast

end PageRouter
