import Mathlib.Data.List.Infix
import PageRouter.Navigation.Navigator
import PageRouter.Proofs.Run

/-!
# Runs of calls to a navigator

The history of a navigator is a stack.  A push that moves puts the location it leaves on top, a step
back takes the top off, and nothing else touches the stack; that is all that a call can do
(`effect_step`).  From this follow the size of the history after any run (`historySize_after`), and
that whatever is done on top of a stack without reaching below it leaves what is below alone
(`exists_history_after_eq`).

* `stack_discipline`: so a push is undone by the step back that belongs to it, whatever balanced
  calls are made in between.
-/

set_option autoImplicit false

namespace PageRouter.Navigator

/-- A call to a navigator. -/
inductive Call where
  | push (url : String)
  | replace (url : String)
  | back
deriving DecidableEq, Repr

/-- What a call answers. -/
inductive Reply where
  /-- Whether a push or a step back was a move. -/
  | moved (b : Bool)
  | replaced
  /-- The text stands for no location. -/
  | failed (fault : Location.Fault)
deriving DecidableEq, Repr

/-- What is answered to a push, and what it leaves. -/
def pushed (n : Navigator) : Except Location.Fault (Bool × Navigator) → Reply × Navigator
  | .ok (moved, next) => (.moved moved, next)
  | .error fault => (.failed fault, n)

/-- What is answered to a replacement, and what it leaves. -/
def replaced (n : Navigator) : Except Location.Fault Navigator → Reply × Navigator
  | .ok next => (.replaced, next)
  | .error fault => (.failed fault, n)

/-- Make a call. -/
def step (n : Navigator) : Call → Reply × Navigator
  | .push url => n.pushed (n.push url)
  | .replace url => n.replaced (n.replace url)
  | .back => (.moved n.back.1, n.back.2)

/-- Whether a call was a push that moved. -/
def isPush : Call × Reply → Bool
  | (.push _, .moved true) => true
  | _ => false

/-- Whether a call was a step back that moved. -/
def isBack : Call × Reply → Bool
  | (.back, .moved true) => true
  | _ => false

/-- How many pushes of a run moved. -/
def pushes (t : List (Call × Reply)) : Nat := t.countP isPush

/-- How many steps back of a run moved. -/
def backs (t : List (Call × Reply)) : Nat := t.countP isBack

/-- A run in which every step back that moved belongs to a push before it, and every push that moved
has its step back. -/
def IsBalanced (t : List (Call × Reply)) : Prop :=
  backs t = pushes t ∧ ∀ pre, pre <+: t → backs pre ≤ pushes pre

instance (t : List (Call × Reply)) : Decidable (IsBalanced t) :=
  decidable_of_iff (backs t = pushes t ∧ ∀ pre ∈ t.inits, backs pre ≤ pushes pre) <| by
    simp only [IsBalanced, List.mem_inits]

/-- Whether a call answered that it did nothing: an error, or a move that was none. -/
def Reply.isIdle : Reply → Bool
  | .moved b => !b
  | .replaced => false
  | .failed _ => true

/-! ## What a call can do -/

/-- What a call may answer, and what it then leaves. -/
inductive Effect (n : Navigator) : Call × Reply → Navigator → Prop where
  | pushed {url : String} {l : Location} (hl : Location.parse url = .ok l) (hne : n.location ≠ l) :
    Effect n (.push url, .moved true) ⟨n.current.send l, n.location :: n.history⟩
  | replaced {url : String} {l : Location} (hl : Location.parse url = .ok l) :
    Effect n (.replace url, .replaced) ⟨n.current.send l, n.history⟩
  | back {l : Location} {rest : List Location} (h : n.history = l :: rest) :
    Effect n (.back, .moved true) ⟨n.current.send l, rest⟩
  | idle {call : Call} {reply : Reply} (h : reply.isIdle = true) : Effect n (call, reply) n

theorem step_push_of_parse {n : Navigator} {url : String} {l : Location}
    (h : Location.parse url = .ok l) :
    n.step (.push url) = (.moved (n.pushTo l).1, (n.pushTo l).2) := by
  rw [step, push, h]
  rfl

theorem step_push_of_parse_error {n : Navigator} {url : String} {fault : Location.Fault}
    (h : Location.parse url = .error fault) : n.step (.push url) = (.failed fault, n) := by
  rw [step, push, h]
  rfl

theorem step_replace_of_parse {n : Navigator} {url : String} {l : Location}
    (h : Location.parse url = .ok l) : n.step (.replace url) = (.replaced, n.replaceBy l) := by
  rw [step, replace, h]
  rfl

theorem step_replace_of_parse_error {n : Navigator} {url : String} {fault : Location.Fault}
    (h : Location.parse url = .error fault) : n.step (.replace url) = (.failed fault, n) := by
  rw [step, replace, h]
  rfl

/-- **What a call can do**, whatever it is called with. -/
theorem effect_step (n : Navigator) (call : Call) :
    Effect n (call, (n.step call).1) (n.step call).2 := by
  cases call with
  | push url =>
    cases hl : Location.parse url with
    | error fault =>
      rw [step_push_of_parse_error hl]
      exact .idle rfl
    | ok l =>
      rw [step_push_of_parse hl, pushTo]
      split
      · exact .idle rfl
      · rename_i hne
        exact .pushed hl hne
  | replace url =>
    cases hl : Location.parse url with
    | error fault =>
      rw [step_replace_of_parse_error hl]
      exact .idle rfl
    | ok l =>
      rw [step_replace_of_parse hl]
      exact .replaced hl
  | back =>
    rw [step, back]
    cases hhistory : n.history with
    | nil => exact .idle rfl
    | cons l rest => exact .back hhistory

/-- A call that answers that it did nothing leaves the navigator as it was, the count of changes by
which its observers go included. -/
theorem Effect.eq_of_isIdle {n next : Navigator} {call : Call} {reply : Reply}
    (h : Effect n (call, reply) next) (hidle : reply.isIdle = true) : next = n := by
  cases h with
  | pushed | back => exact absurd hidle (by decide)
  | replaced => exact absurd hidle (by decide)
  | idle => rfl

theorem counts_of_isIdle {call : Call} {reply : Reply} (h : reply.isIdle = true) :
    pushes [(call, reply)] = 0 ∧ backs [(call, reply)] = 0 := by
  cases call <;> cases reply <;> simp_all [Reply.isIdle, pushes, backs, isPush, isBack]

theorem pushes_append (t u : List (Call × Reply)) : pushes (t ++ u) = pushes t + pushes u :=
  List.countP_append

theorem backs_append (t u : List (Call × Reply)) : backs (t ++ u) = backs t + backs u :=
  List.countP_append

/-! ## The history as a stack -/

/-- The history grows by a push that moved and shrinks by a step back that moved. -/
theorem Effect.historySize_add {n next : Navigator} {x : Call × Reply} (h : Effect n x next) :
    next.historySize + backs [x] = n.historySize + pushes [x] := by
  cases h with
  | pushed => rfl
  | replaced => rfl
  | back hhistory =>
    rw [historySize, historySize, hhistory]
    rfl
  | idle hidle =>
    obtain ⟨hpushes, hbacks⟩ := counts_of_isIdle hidle
    rw [hpushes, hbacks]

/-- **A call keeps to the top of the stack.**  Unless it steps back below it, what is below stays as
it was, and the top grows by a push that moved and shrinks by a step back that moved. -/
theorem Effect.exists_history_eq {n next : Navigator} {x : Call × Reply} {top base : List Location}
    (h : Effect n x next) (hn : n.history = top ++ base)
    (hx : backs [x] ≤ top.length + pushes [x]) :
    ∃ top', next.history = top' ++ base ∧
      top'.length + backs [x] = top.length + pushes [x] := by
  cases h with
  | pushed => exact ⟨n.location :: top, congrArg (n.location :: ·) hn, rfl⟩
  | replaced => exact ⟨top, hn, rfl⟩
  | @back l rest hhistory =>
    cases top with
    | nil => exact absurd hx (by decide)
    | cons a top =>
      rw [hhistory] at hn
      exact ⟨top, (List.cons.inj hn).2, rfl⟩
  | idle hidle =>
    obtain ⟨hpushes, hbacks⟩ := counts_of_isIdle hidle
    exact ⟨top, hn, by rw [hpushes, hbacks]⟩

/-- What a run does on top of a stack, as long as no beginning of it steps back below. -/
theorem exists_history_after_eq {n : Navigator} {top base : List Location} (calls : List Call)
    (hn : n.history = top ++ base)
    (h : ∀ pre, pre <+: Run.trace step n calls → backs pre ≤ top.length + pushes pre) :
    ∃ top', (Run.after step n calls).history = top' ++ base ∧
      top'.length + backs (Run.trace step n calls) =
        top.length + pushes (Run.trace step n calls) := by
  induction calls generalizing n top with
  | nil => exact ⟨top, hn, rfl⟩
  | cons call calls ih =>
    have hfirst := h [(call, (n.step call).1)] (List.prefix_append [_] _)
    obtain ⟨top₁, htop₁, hlength₁⟩ := (effect_step n call).exists_history_eq hn hfirst
    have hrest : ∀ pre, pre <+: Run.trace step (n.step call).2 calls →
        backs pre ≤ top₁.length + pushes pre := by
      intro pre hpre
      have hcons := h ([(call, (n.step call).1)] ++ pre) (List.cons_prefix_cons.2 ⟨rfl, hpre⟩)
      rw [backs_append, pushes_append] at hcons
      omega
    obtain ⟨top', htop', hlength'⟩ := ih htop₁ hrest
    refine ⟨top', htop', ?_⟩
    have hbacks := backs_append [(call, (n.step call).1)] (Run.trace step (n.step call).2 calls)
    have hpushes := pushes_append [(call, (n.step call).1)] (Run.trace step (n.step call).2 calls)
    rw [List.singleton_append] at hbacks hpushes
    rw [Run.trace_cons, hbacks, hpushes]
    omega

/-- **The size of the history** is that at the start and the pushes that moved, less the steps back
that moved. -/
theorem historySize_after (n : Navigator) (calls : List Call) :
    (Run.after step n calls).historySize + backs (Run.trace step n calls) =
      n.historySize + pushes (Run.trace step n calls) := by
  refine Run.invariant step
    (P := fun t m => m.historySize + backs t = n.historySize + pushes t) rfl ?_ calls
  intro t m call h
  have hcall := (effect_step m call).historySize_add
  rw [backs_append, pushes_append]
  omega

/-! ## Moves and their undoing -/

theorem canGoBack_iff {n : Navigator} : n.canGoBack = true ↔ 0 < n.historySize := by
  rw [canGoBack, historySize, List.length_pos_iff]
  simp

/-- A step back takes the top of the history as the location. -/
theorem back_of_history_eq {n : Navigator} {l : Location} {rest : List Location}
    (h : n.history = l :: rest) :
    n.back.1 = true ∧ n.back.2.location = l ∧ n.back.2.history = rest := by
  rw [back, h]
  exact ⟨rfl, rfl, rfl⟩

/-- A push that moves puts the location it leaves on top of the history. -/
theorem history_of_push {n next : Navigator} {url : String} (h : n.push url = .ok (true, next)) :
    next.history = n.location :: n.history := by
  have hstep : n.step (.push url) = (.moved true, next) := by rw [step, h, pushed]
  have heffect := effect_step n (.push url)
  rw [hstep] at heffect
  cases heffect with
  | pushed => rfl
  | idle hidle => exact absurd hidle Bool.false_ne_true

/-- **The history is a stack.**  After any calls its size is that at the start, with the pushes that
moved and without the steps back that moved, and there is a step back to make exactly when it is not
empty.  A call that answers that it did nothing leaves the navigator as it was, with the count of
changes that its observers go by.  And what a push has done is undone by the step back that belongs
to it, when the calls in between are balanced: the location and the history are those from before
the push. -/
theorem stack_discipline (n : Navigator) (calls : List Call) :
    let m := Run.after step n calls
    let t := Run.trace step n calls
    m.historySize + backs t = n.historySize + pushes t ∧
      (m.canGoBack = true ↔ 0 < m.historySize) ∧
      (m.back.1 = true ↔ 0 < m.historySize) ∧
      (∀ call, (m.step call).1.isIdle = true → (m.step call).2 = m) ∧
      ∀ url next, m.push url = .ok (true, next) →
        ∀ more, IsBalanced (Run.trace step next more) →
          let last := Run.after step next more
          last.back.1 = true ∧ last.back.2.location = m.location ∧
            last.back.2.history = m.history := by
  intro m t
  refine ⟨historySize_after n calls, canGoBack_iff, ?_, ?_, ?_⟩
  · rw [fst_back_eq_canGoBack]
    exact canGoBack_iff
  · intro call hidle
    exact (effect_step m call).eq_of_isIdle hidle
  · intro url next hpush more hbalanced last
    obtain ⟨heq, hprefix⟩ := hbalanced
    have hnext : next.history = [] ++ m.location :: m.history := history_of_push hpush
    obtain ⟨top, htop, hlength⟩ := exists_history_after_eq more hnext fun pre hpre => by
      have hle := hprefix pre hpre
      rw [List.length_nil]
      omega
    have hnil : top = [] := by
      rw [← List.length_eq_zero_iff]
      rw [List.length_nil] at hlength
      omega
    rw [hnil, List.nil_append] at htop
    exact back_of_history_eq htop

/-- Calls that end where they began, with one of each kind among them that does nothing, and a
replacement. -/
def detour : List Call :=
  [.replace "/book", .push "//book", .push "/order/8?tab=items", .push "http://[::1", .back]

theorem stack_discipline_detour :
    ∃ next, standard.push "/make" = .ok (true, next) ∧
      IsBalanced (Run.trace step next detour) ∧
      (Run.after step next detour).location.path = "/book" ∧
      (Run.after step next detour).back.1 = true ∧
      (Run.after step next detour).back.2.location = .root := by
  have hpush : standard.push "/make" =
      .ok (true, ⟨⟨⟨"/make", none, none⟩, 1⟩, [.root]⟩) := by decide +kernel
  have hbalanced : IsBalanced (Run.trace step ⟨⟨⟨"/make", none, none⟩, 1⟩, [.root]⟩ detour) := by
    decide +kernel
  obtain ⟨_, _, _, _, hundone⟩ := stack_discipline standard []
  obtain ⟨hmoved, hlocation, _⟩ := hundone "/make" _ hpush detour hbalanced
  exact ⟨_, hpush, hbalanced, by decide +kernel, hmoved, hlocation⟩

end PageRouter.Navigator
