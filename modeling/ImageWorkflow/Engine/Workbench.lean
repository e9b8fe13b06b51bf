import ImageWorkflow.Engine.Run

/-!
# Engines in use

A `Session` is what its runs need of an engine that is used again.  A `Workbench` is the engine with
all that a run leaves lying about in it: the next one finds it there and has to clear it away.
* `Workbench.visit`, `Workbench.visits` : the visits of a run; one that is given up, or that breaks
  the run, is left in the middle;
* `Workbench.giveUp` : what is made up for after that; `Workbench.finish` : the end of a run;
* `Workbench.run` : a run from start to end; `Workbench.cancel` : the request that it be cancelled.
-/

namespace ImageWorkflow

/-- An engine with what its latest run left. -/
structure Workbench (σ : Type) where
  status : RunStatus := .idle
  workflow : Workflow := []
  /-- The generation parameters that no instruction sets, as the latest run found them. -/
  baseline : Generation
  /-- The index of the instruction that is being visited. -/
  currentIndex : Option Nat := none
  /-- The latest run: its state, its report, and whether it was requested that it be cancelled. -/
  latest : Run σ

namespace Workbench
variable {σ : Type}

/-- An engine that was not used yet. -/
def new (baseline : Generation) (files : FileTree) (memory : σ) : Workbench σ where
  baseline
  latest := { scene := { files, memory } }

/-- Request cancellation; without a run this does nothing. -/
def cancel (b : Workbench σ) : Workbench σ :=
  if b.status = .running then { b with latest.cancelRequested := true } else b

/-- Clear away what the run before left, and note that there is a new one. -/
def clear (b : Workbench σ) (e : Engine σ) : Workbench σ :=
  { b with
    status := .running
    baseline := e.baseline
    latest := { scene := { files := b.latest.scene.files, memory := b.latest.scene.memory } } }

/-- What a run is given, with the generation parameters that it found. -/
def engine (b : Workbench σ) (e : Engine σ) : Engine σ := { e with baseline := b.baseline }

/-- Visit the instruction at `index`. -/
def visit (b : Workbench σ) (e : Engine σ) (index : Nat) (i : Instruction) : Workbench σ :=
  let e := b.engine e
  let b := { b with currentIndex := some index }
  let before := b.latest.scene
  let r := b.latest.emit e (.started index b.workflow.length i)
  let (scene, verdict) := e.visit b.workflow before index i
  let r := { r.emitProgress e index scene.progress with scene }
  -- nothing of what follows is done when the visit breaks the run or is given up
  if e.breaks b.workflow before index i then { b with latest := { r with ending := .broken } }
  else
    let ending := Run.endingAfter r.cancelRequested verdict
    if ending = .abandoned then { b with latest := { r with ending := .abandoned } }
    else
      let entry : Entry :=
        { index, kind := i.kind, outcome := verdict.outcome i, message := verdict.message,
          iteration := before.state.iteration? }
      let r := { r with entries := entry :: r.entries, fatalError := verdict.fatalError, ending }
      { b with currentIndex := none, latest := r.emit e (.completed entry scene.state) }

/-- Visit instructions until the run ends or is left, `budget` of them at most. -/
def visits (e : Engine σ) : (budget : Nat) → Workbench σ → Workbench σ
  | 0, b => b
  | budget + 1, b =>
    if b.latest.fatalError.isSome then b
    else
      match b.workflow[b.latest.scene.state.counter]? with
      | none => b
      | some i =>
        if b.latest.cancelRequested then
          { b with
            latest.fatalError := some VisitFailure.cancelledMessage
            latest.ending := .cancelled }
        else
          let b := b.visit e b.latest.scene.state.counter i
          if b.latest.ending = .broken || b.latest.ending = .abandoned then b
          else visits e budget b

/-- Make up for a visit that was given up: its entry is written from what the visit left, if the run
was in one. -/
def giveUp (b : Workbench σ) : Workbench σ :=
  let skipped : Option Entry := b.currentIndex.bind fun index => b.workflow[index]?.map fun i =>
    { index, kind := i.kind, outcome := .skipped, message := VisitFailure.cancelledMessage,
      iteration := b.latest.scene.state.iteration? }
  { b with
    latest.entries := skipped.toList ++ b.latest.entries
    latest.fatalError := some VisitFailure.cancelledMessage
    latest.cancelRequested := true }

/-- The end of a run. -/
def finish (b : Workbench σ) (e : Engine σ) : Workbench σ :=
  { b with
    status := (b.latest.report b.workflow).status
    currentIndex := none
    latest := b.latest.finish e b.workflow }

/-- What comes of a run by the way its visits were left. -/
def leave (b : Workbench σ) (e : Engine σ) : Workbench σ × Except RunRefusal (Run σ) :=
  if b.latest.ending = .broken then (b, .error (.broken b.latest.events .noPixels))
  else
    let b := (if b.latest.ending = .abandoned then b.giveUp else b).finish e
    (b, .ok b.latest)

/-- Note what came of the check of the connection. -/
def checked (b : Workbench σ) (e : Engine σ) (connected requested : Bool) : Workbench σ :=
  { b with
    latest.cancelRequested := requested
    latest.fatalError :=
      if connected then none else some (Run.unreachableMessage e.provider.name) }

/-- A run from the check of the connection on. -/
def perform (b : Workbench σ) (e : Engine σ) (checksConnection : Bool) :
    Workbench σ × Except RunRefusal (Run σ) :=
  let memory := b.latest.scene.memory
  let interruption := Run.interruptedFirst e b.workflow checksConnection memory
  let (answer, memory) := Run.checkFirst e b.workflow checksConnection memory
  let b := { b with latest.scene.memory := memory }
  if interruption = some .outside then { b with latest.ending := .abandoned }.leave e
  else
    match answer with
    | .error error => (b, .error (.check error))
    | .ok connected =>
      ((b.checked e connected interruption.isSome).visits e b.workflow.visitBudget).leave e

/-- Run a workflow: the engine afterwards, and the run or why there is no report of it. -/
def run (b : Workbench σ) (e : Engine σ) (w : Workflow) (checksConnection : Option Bool := none)
    (enforcesValidation : Bool := false) : Workbench σ × Except RunRefusal (Run σ) :=
  let validation := w.validate
  if b.status = .running then (b, .error .busy)
  else
    let b := { b with workflow := w }
    if enforcesValidation && !validation.isValid then (b, .error (.invalid validation))
    else
      let (files, prepared) := b.latest.scene.files.makeDirectories e.workingDirectory
      let b := { b with latest.scene.files := files }
      match prepared with
      | .error error => (b, .error (.workingDirectory e.workingDirectory error))
      | .ok () => (b.clear e).perform e (checksConnection.getD e.checksConnection)

end Workbench

end ImageWorkflow
