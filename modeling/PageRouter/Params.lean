/-!
# Path parameters

A successful match binds names to segments of the path.  `Params` keeps the bindings in the order
they were made; a look-up finds the first binding of a name, so a later one of the same name is
listed but never read.
-/

set_option autoImplicit false

namespace PageRouter

/-- Names bound to values, in the order they were bound. -/
structure Params where
  bindings : List (String × String)
deriving DecidableEq, Repr, Inhabited

namespace Params

/-- No bindings at all. -/
def empty : Params := ⟨[]⟩

/-- Bind one more name. -/
def push (p : Params) (name value : String) : Params := ⟨p.bindings ++ [(name, value)]⟩

/-- The value first bound to a name. -/
def get? (p : Params) (name : String) : Option String :=
  (p.bindings.find? fun b => b.1 == name).map (·.2)

/-- How many bindings there are, repeated names counted each time. -/
def size (p : Params) : Nat := p.bindings.length

def isEmpty (p : Params) : Bool := p.bindings.isEmpty

/-- The bound names, in order. -/
def names (p : Params) : List String := p.bindings.map (·.1)

theorem get?_cons (b : String × String) (bs : List (String × String)) (name : String) :
    get? ⟨b :: bs⟩ name = if b.1 = name then some b.2 else get? ⟨bs⟩ name := by
  by_cases h : b.1 = name <;> simp [get?, h]

/-- A name has a value exactly when it is bound. -/
theorem isSome_get?_iff (p : Params) (name : String) :
    (p.get? name).isSome = true ↔ name ∈ p.names := by
  obtain ⟨bs⟩ := p
  induction bs with
  | nil => simp [get?, names]
  | cons b bs ih =>
    rw [get?_cons]
    split
    · rename_i h
      simp [names, h]
    · rename_i h
      rw [ih]
      simp [names, Ne.symm h]

end Params

end PageRouter
