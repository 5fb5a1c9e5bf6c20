/-!
# Observed values

A channel holds one value, which changes, and counts the changes.  An observer remembers the count
up to which it has seen the value, so it never sees a value that was replaced before it looked, and
sees the last one once.

* `not_isUnseen_look`: looking leaves nothing unseen.
-/

set_option autoImplicit false

namespace PageRouter

/-- A value, and how often it was replaced. -/
structure Channel (α : Type) where
  value : α
  version : Nat
deriving DecidableEq, Repr

/-- How far an observer of a channel has seen. -/
structure Observer where
  seen : Nat
deriving DecidableEq, Repr

namespace Channel

variable {α : Type}

/-- A channel with a first value. -/
def create (value : α) : Channel α := ⟨value, 0⟩

/-- Replace the value.  This is a change even if the new value equals the old one. -/
def send (ch : Channel α) (value : α) : Channel α := ⟨value, ch.version + 1⟩

/-- An observer that has seen the value as it is now. -/
def observe (ch : Channel α) : Observer := ⟨ch.version⟩

/-- Whether an observer has not seen the value yet. -/
def isUnseen (ch : Channel α) (o : Observer) : Bool := o.seen != ch.version

/-- The value, and the observer once it has seen it. -/
def look (ch : Channel α) (_ : Observer) : α × Observer := (ch.value, ch.observe)

theorem not_isUnseen_look (ch : Channel α) (o : Observer) :
    ch.isUnseen (ch.look o).2 = false := by
  simp [isUnseen, look, observe]

end Channel

end PageRouter
