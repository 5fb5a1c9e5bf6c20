/-!
# Runs, step by step

A navigator, a session and a shutdown are each driven by a function that takes one step: it answers,
and leaves the next state.  A run takes several steps one after the other.  What is told of a run is
told in terms of its trace, which has for each step what was asked and what was answered.

The one induction over runs is `Run.invariant`: what relates the empty trace to the state at the
start, and is kept by each step, relates the trace of every run to the state after it.  What a trace
says of the order of things is said by splitting it, and `exists_split_append_singleton` is how such
a statement changes with one more step.
-/

set_option autoImplicit false

namespace PageRouter.Run

variable {σ ω ρ : Type} (step : σ → ω → ρ × σ)

/-- The state after several steps. -/
def after (s : σ) (ops : List ω) : σ := ops.foldl (fun s op => (step s op).2) s

/-- What was asked and what was answered, step by step. -/
def trace (s : σ) : List ω → List (ω × ρ)
  | [] => []
  | op :: ops => (op, (step s op).1) :: trace (step s op).2 ops

@[simp] theorem after_nil (s : σ) : after step s [] = s := rfl

@[simp] theorem trace_nil (s : σ) : trace step s [] = [] := rfl

@[simp] theorem trace_cons (s : σ) (op : ω) (ops : List ω) :
    trace step s (op :: ops) = (op, (step s op).1) :: trace step (step s op).2 ops := rfl

theorem after_append_singleton (s : σ) (ops : List ω) (op : ω) :
    after step s (ops ++ [op]) = (step (after step s ops) op).2 := by
  rw [after, after, List.foldl_append]
  rfl

/-- **What each step keeps holds after every run.**  The relation is between the trace so far and
the state that it has led to. -/
theorem invariant {P : List (ω × ρ) → σ → Prop} {s : σ} (hstart : P [] s)
    (hstep : ∀ t s op, P t s → P (t ++ [(op, (step s op).1)]) (step s op).2) (ops : List ω) :
    P (trace step s ops) (after step s ops) := by
  -- the induction is on what is still to be done, behind any trace that has led to the state
  have hbehind : ∀ (ops : List ω) (t : List (ω × ρ)) (s : σ), P t s →
      P (t ++ trace step s ops) (after step s ops) := by
    intro ops
    induction ops with
    | nil =>
      intro t s h
      simpa using h
    | cons op ops ih =>
      intro t s h
      have hnext := ih _ _ (hstep t s op h)
      rwa [List.append_assoc] at hnext
  exact hbehind ops [] s hstart

/-- A trace to which a step was added is split at that step, or where it was split before. -/
theorem exists_split_append_singleton {ε : Type} {P : List ε → ε → List ε → Prop} {t : List ε}
    {x : ε} :
    (∃ before y later, t ++ [x] = before ++ y :: later ∧ P before y later) ↔
      P t x [] ∨ ∃ before y later, t = before ++ y :: later ∧ P before y (later ++ [x]) := by
  constructor
  · rintro ⟨before, y, later, hsplit, hP⟩
    rcases List.eq_nil_or_concat later with rfl | ⟨later, z, rfl⟩
    · obtain ⟨rfl, hxy⟩ := List.append_inj' hsplit rfl
      obtain ⟨rfl, _⟩ := List.cons.inj hxy
      exact .inl hP
    · rw [List.concat_eq_append] at hsplit hP
      rw [← List.cons_append, ← List.append_assoc] at hsplit
      obtain ⟨rfl, hzx⟩ := List.append_inj' hsplit rfl
      obtain ⟨rfl, _⟩ := List.cons.inj hzx
      exact .inr ⟨before, y, later, rfl, hP⟩
  · rintro (hP | ⟨before, y, later, rfl, hP⟩)
    · exact ⟨t, x, [], rfl, hP⟩
    · exact ⟨before, y, later ++ [x], by rw [List.append_assoc, List.cons_append], hP⟩

end PageRouter.Run
