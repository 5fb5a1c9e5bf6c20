import PageRouter.Lifecycle.Shutdown

/-!
# Launching the server

Two tasks run side by side while the server comes up.  The main task builds the server, begins to
wait for the shutdown, and runs the server until that wait is over.  The signal task, which was
started before, takes in a termination signal, announces the shutdown once, and ends.  Their steps
can be interleaved in any way that keeps the order within each task.
-/

set_option autoImplicit false

namespace PageRouter.Launch

/-- A step of one of the two tasks. -/
inductive Step where
  /-- The main task builds the server. -/
  | build
  /-- The main task begins to wait for the shutdown. -/
  | subscribe
  /-- The main task hands the wait to the server and runs it. -/
  | run
  /-- The signal task takes in a termination signal. -/
  | receive
  /-- The signal task announces the shutdown, and gives up its handle as it ends. -/
  | announce
deriving DecidableEq, Repr

/-- The steps of the main task, in their order. -/
def mainTask : List Step := [.build, .subscribe, .run]

/-- The steps of the signal task, in their order. -/
def signalTask : List Step := [.receive, .announce]

/-- All ways to interleave two lists of steps. -/
def interleavings : List Step → List Step → List (List Step)
  | [], bs => [bs]
  | as, [] => [as]
  | a :: as, b :: bs =>
    (interleavings as (b :: bs)).map (a :: ·) ++ (interleavings (a :: as) bs).map (b :: ·)
termination_by as bs => as.length + bs.length

/-- The handle of the main task. -/
def mainHandle : Nat := 0

/-- The handle of the signal task. -/
def signalHandle : Nat := 1

/-- The state in which both tasks begin: each has a handle. -/
def initial : Shutdown := Shutdown.new.clone

/-- What a step does to the shutdown. -/
def perform (s : Shutdown) : Step → Shutdown
  | .subscribe => (s.step (.subscribe mainHandle)).2
  | .announce => ((s.step (.trigger signalHandle)).2.step (.drop signalHandle)).2
  | .build | .run | .receive => s

/-- The shutdown after steps. -/
def outcome (steps : List Step) : Shutdown := steps.foldl perform initial

/-- Whether the server stops: its wait, the first one, is over. -/
def stops (steps : List Step) : Bool := ((outcome steps).step (.poll 0)).1 == .done

end PageRouter.Launch
