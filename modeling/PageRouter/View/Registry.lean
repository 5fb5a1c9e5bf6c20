import PageRouter.Text.Quoted
import PageRouter.View.Standard

/-!
# The registry of views

Routes refer to views by key, and the registry holds one view for each key.  Registering a view under a
key that is taken replaces the view there.  The views are kept in strictly ascending order of their keys,
so that the listing of keys does not depend on the order in which they were registered.

* `pairwise_insertSorted`: a view can be put at the place of its key.
* `find?_insert`: what each key reads as after a registration.
-/

set_option autoImplicit false

namespace PageRouter.View

/-- Views by key, in the order of their keys. -/
structure Registry where
  views : List View
  /-- No two views have the same key. -/
  ascending : views.Pairwise fun v w => v.key < w.key

namespace Registry

/-- The registry without views. -/
def empty : Registry := ⟨[], .nil⟩

/-- The view registered under a key. -/
def find? (r : Registry) (key : String) : Option View := r.views.find? fun v => v.key == key

def contains (r : Registry) (key : String) : Bool := (r.find? key).isSome

/-- The registered keys, in ascending order. -/
def keys (r : Registry) : List String := r.views.map View.key

theorem pairwise_keys (r : Registry) : r.keys.Pairwise (· < ·) := List.pairwise_map.2 r.ascending

/-! ## Writing -/

/-- Put a view at the place of its key, in the stead of a view that has the same key. -/
def insertSorted (v : View) : List View → List View
  | [] => [v]
  | w :: ws =>
    if v.key = w.key then v :: ws
    else if v.key < w.key then v :: w :: ws
    else w :: insertSorted v ws

theorem mem_insertSorted {v w : View} {ws : List View} (h : w ∈ insertSorted v ws) :
    w = v ∨ w ∈ ws := by
  induction ws with
  | nil => simpa [insertSorted] using h
  | cons u us ih =>
    rw [insertSorted] at h
    split at h
    · rcases List.mem_cons.1 h with rfl | h
      · exact .inl rfl
      · exact .inr (List.mem_cons_of_mem _ h)
    · split at h
      · rcases List.mem_cons.1 h with rfl | h
        · exact .inl rfl
        · exact .inr h
      · rcases List.mem_cons.1 h with rfl | h
        · exact .inr List.mem_cons_self
        · exact (ih h).imp id (List.mem_cons_of_mem _)

/-- What is in ascending order stays so. -/
theorem pairwise_insertSorted {ws : List View} (h : ws.Pairwise fun a b => a.key < b.key)
    (v : View) : (insertSorted v ws).Pairwise fun a b => a.key < b.key := by
  induction ws with
  | nil => simp [insertSorted]
  | cons w ws ih =>
    obtain ⟨hw, hws⟩ := List.pairwise_cons.1 h
    rw [insertSorted]
    split
    · rename_i heq
      exact List.pairwise_cons.2 ⟨fun u hu => heq ▸ hw u hu, hws⟩
    · rename_i hne
      split
      · rename_i hlt
        refine List.pairwise_cons.2 ⟨fun u hu => ?_, h⟩
        rcases List.mem_cons.1 hu with rfl | hu
        · exact hlt
        · exact String.lt_trans hlt (hw u hu)
      · rename_i hnlt
        refine List.pairwise_cons.2 ⟨fun u hu => ?_, ih hws⟩
        rcases mem_insertSorted hu with rfl | hu
        · rcases Std.lt_trichotomy u.key w.key with hlt | heq | hgt
          · exact absurd hlt hnlt
          · exact absurd heq hne
          · exact hgt
        · exact hw u hu

/-- Add a view under its key. -/
def insert (r : Registry) (v : View) : Registry :=
  ⟨insertSorted v r.views, pairwise_insertSorted r.ascending v⟩

/-- Add a view under its key, and give the view that it displaces. -/
def register (r : Registry) (v : View) : Option View × Registry := (r.find? v.key, r.insert v)

/-- The registry that a list of views makes, registered in order. -/
def ofList (views : List View) : Registry := views.foldl insert empty

/-- The registry of the standard pages. -/
def standard : Registry := ofList View.standard

/-- The registry as it is shown to a person: its keys, quoted. -/
def describe (r : Registry) : String :=
  "ViewRegistry \x7b views: [" ++ ", ".intercalate (r.keys.map Text.quote) ++ "] \x7d"

/-! ## Reading after writing -/

theorem find?_insertSorted (v : View) (ws : List View) (key : String) :
    (insertSorted v ws).find? (fun w => w.key == key) =
      if v.key = key then some v else ws.find? fun w => w.key == key := by
  induction ws with
  | nil => by_cases hk : v.key = key <;> simp [insertSorted, hk]
  | cons w ws ih =>
    rw [insertSorted]
    split
    · rename_i hw
      by_cases hk : v.key = key <;> simp [hk, ← hw]
    · rename_i hw
      split
      · by_cases hk : v.key = key <;> simp [hk]
      · rw [List.find?_cons, List.find?_cons, ih]
        cases hk : w.key == key with
        | true =>
          have hv : v.key ≠ key := fun hv => hw (hv.trans (beq_iff_eq.1 hk).symm)
          simp [hv]
        | false => rfl

/-- **Last write wins.**  A key reads as the view just registered under it, every other key as
before. -/
theorem find?_insert (r : Registry) (v : View) (key : String) :
    (r.insert v).find? key = if v.key = key then some v else r.find? key :=
  find?_insertSorted v r.views key

end Registry

end PageRouter.View
