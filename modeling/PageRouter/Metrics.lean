/-!
# Metrics of rendering

Every visit of a path is counted twice: once by its route and its result, and once as a sample of how long
it took, by its route alone.  A `Tally` is a list of keys with their counts, in the order in which the keys
first came up.

* `count_add`: adding a key raises the count of that key by one and leaves the others alone.
* `total_add`: it raises the sum of all counts by one.
-/

set_option autoImplicit false

namespace PageRouter

/-- How often each key came up. -/
structure Tally (α : Type) where
  entries : List (α × Nat)
deriving Repr

namespace Tally

variable {α : Type} [DecidableEq α]

/-- Nothing came up yet. -/
def empty : Tally α := ⟨[]⟩

/-- Raise the count of a key among entries. -/
def addTo (key : α) : List (α × Nat) → List (α × Nat)
  | [] => [(key, 1)]
  | e :: es => if e.1 = key then (key, e.2 + 1) :: es else e :: addTo key es

/-- Raise the count of a key by one. -/
def add (t : Tally α) (key : α) : Tally α := ⟨addTo key t.entries⟩

/-- How often a key came up. -/
def count (t : Tally α) (key : α) : Nat :=
  ((t.entries.find? fun e => e.1 = key).map (·.2)).getD 0

/-- How often anything came up. -/
def total (t : Tally α) : Nat := (t.entries.map (·.2)).foldr (· + ·) 0

theorem total_add (t : Tally α) (key : α) : (t.add key).total = t.total + 1 := by
  obtain ⟨es⟩ := t
  simp only [add, total]
  induction es with
  | nil => rfl
  | cons e es ih =>
    rw [addTo]
    split
    · simp only [List.map_cons, List.foldr_cons]
      omega
    · simp only [List.map_cons, List.foldr_cons, ih]
      omega

theorem count_add (t : Tally α) (key other : α) :
    (t.add key).count other = t.count other + if key = other then 1 else 0 := by
  obtain ⟨es⟩ := t
  simp only [add, count]
  induction es with
  | nil => by_cases h : key = other <;> simp [addTo, h]
  | cons e es ih =>
    rw [addTo]
    by_cases he : e.1 = key
    · rw [if_pos he]
      by_cases hk : key = other
      · simp [he, hk]
      · have hne : ¬e.1 = other := fun h => hk (he.symm.trans h)
        simp [hk, hne]
    · rw [if_neg he]
      by_cases ho : e.1 = other
      · have hk : ¬key = other := fun h => he (ho.trans h.symm)
        simp [ho, hk]
      · simp only [List.find?_cons, ho, decide_false] at ih ⊢
        exact ih

end Tally

namespace Metrics

/-- How a visit of a path ended. -/
inductive Result where
  | rendered
  | noMatch
  | failed
deriving DecidableEq, Repr

/-- The word for a result. -/
def Result.word : Result → String
  | .rendered => "rendered"
  | .noMatch => "no_match"
  | .failed => "error"

/-- What is recorded of one visit. -/
structure Sample where
  route : String
  result : Result
deriving DecidableEq, Repr

/-- The label of a path that no route matches. -/
def noRoute : String := "none"

/-- The name of the counter of visits. -/
def rendersName : String := "shell_renders_total"

/-- The name of the record of durations. -/
def durationsName : String := "shell_render_duration_seconds"

end Metrics

/-- What was recorded of some visits: how many there were of each route and result, and how many durations
were measured for each route. -/
structure Metrics where
  renders : Tally (String × Metrics.Result)
  durations : Tally String
deriving Repr

namespace Metrics

/-- Nothing was recorded yet. -/
def empty : Metrics := ⟨.empty, .empty⟩

/-- Record one visit. -/
def record (m : Metrics) (s : Sample) : Metrics :=
  ⟨m.renders.add (s.route, s.result), m.durations.add s.route⟩

/-- What the visits of a list leave behind. -/
def ofSamples (samples : List Sample) : Metrics := samples.foldl record empty

end Metrics

end PageRouter
