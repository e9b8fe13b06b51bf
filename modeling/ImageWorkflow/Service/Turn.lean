import ImageWorkflow.Engine.Report

/-!
# Taking turns

Runs of a service take turns: there is one at a time.  A service remembers the turn that was taken
last, and each of its answers depends on that turn only.
* `Turn.start?` : a new turn, unless there is one that is still going on;
* `Turn.settle` : the end of a turn;
* `Turn.requestCancel` : cancellation is requested of the turn that is going on, if there is one.
-/

namespace ImageWorkflow

/-- The turn of a run. -/
structure Turn where
  /-- How many turns were before. -/
  number : Nat
  status : RunStatus
  cancelRequested : Bool := false
  deriving DecidableEq, Repr

namespace Turn

/-- Whether the run of the turn is going on. -/
def isRunning (t : Turn) : Bool := t.status = .running

/-- Whether a run is going on. -/
def isBusy (last : Option Turn) : Bool := last.any isRunning

/-- A new turn, unless a run is going on. -/
def start? (last : Option Turn) : Option Turn :=
  if isBusy last then none
  else some { number := (last.map fun t => t.number + 1).getD 0, status := .running }

/-- The end of the turn with a number; a later turn is left as it is. -/
def settle (last : Option Turn) (number : Nat) (status : RunStatus) : Option Turn :=
  last.map fun t => if t.number = number then { t with status } else t

/-- Request cancellation of the run that is going on, and tell whether there is one. -/
def requestCancel (last : Option Turn) : Option Turn × Bool :=
  if isBusy last then (last.map ({ · with cancelRequested := true }), true) else (last, false)

end Turn

end ImageWorkflow
