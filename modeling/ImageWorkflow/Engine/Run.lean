import ImageWorkflow.Engine.Visit
import ImageWorkflow.Workflow.Validation

/-!
# Runs

A run visits instructions from the first on, one after the other, as the counter of its state says,
until the counter is past the last, a failure is fatal, or cancellation was requested.  An error of
the engine itself breaks a run, which then has no report.
* `Run.step` : one visit, with its entry and its events;
* `Run.breakOff` : a visit in which the run breaks;
* `Run.visits` : all visits; their number is bounded by `Workflow.visitBudget`;
* `Run.finish` : the report; after a fatal error every instruction that was never visited gets an
  entry of its own;
* `Session.run` : a run of an engine that may have run before, or why there is no report of it;
  `Session.settle` : what becomes of the engine.
-/

namespace ImageWorkflow

/-- How a run that ends early was ended. -/
inductive Ending where
  /-- Not at all: it came to its end, or to a failure that is fatal. -/
  | own
  /-- By a request for cancellation. -/
  | cancelled
  /-- By whoever awaited it. -/
  | abandoned
  /-- By an error of the engine. -/
  | broken
  deriving DecidableEq, Repr

/-- A run in the course of it. -/
structure Run (σ : Type) where
  scene : Scene σ
  /-- The entries of the visits, latest first. -/
  entries : List Entry := []
  /-- What the observers saw, latest first. -/
  events : List Event := []
  /-- Why the run ends before its time. -/
  fatalError : Option String := none
  /-- Whether cancellation was requested. -/
  cancelRequested : Bool := false
  ending : Ending := .own

namespace Run
variable {σ : Type}

/-- Show an event to the observers, any of whom may request cancellation. -/
def emit (e : Engine σ) (r : Run σ) (event : Event) : Run σ :=
  let events := event :: r.events
  { r with
    events
    cancelRequested :=
      r.cancelRequested || e.observers.any fun observer => observer events = .cancel }

/-- Show the progress of a visit to the observers. -/
def emitProgress (e : Engine σ) (r : Run σ) (index : Nat) (progress : List Progress) : Run σ :=
  progress.foldl (fun r p => r.emit e (.progress index p)) r

/-- How an interruption ends a run: when cancellation was requested before, this is what is
honoured. -/
def endingOf (cancelRequested : Bool) : Interruption → Ending
  | .requested => .cancelled
  | .outside => if cancelRequested then .cancelled else .abandoned

/-- How a verdict ends a run. -/
def endingAfter (cancelRequested : Bool) : Engine.Verdict → Ending
  | .failed (.interrupted source) => endingOf cancelRequested source
  | _ => .own

/-- Visit the instruction at `index`. -/
def step (e : Engine σ) (w : Workflow) (r : Run σ) (index : Nat) (i : Instruction) : Run σ :=
  let iteration := r.scene.state.iteration?
  let r := r.emit e (.started index w.length i)
  let (scene, verdict) := e.visit w r.scene index i
  let r := r.emitProgress e index scene.progress
  let entry : Entry :=
    { index, kind := i.kind, outcome := verdict.outcome i, message := verdict.message, iteration }
  let ending := endingAfter r.cancelRequested verdict
  let r : Run σ := { r with
    scene
    entries := entry :: r.entries
    fatalError := verdict.fatalError
    cancelRequested := r.cancelRequested || ending = .abandoned
    ending }
  if ending = .abandoned then r else r.emit e (.completed entry scene.state)

/-- Visit the instruction at `index` as far as the run gets that breaks in this visit. -/
def breakOff (e : Engine σ) (w : Workflow) (r : Run σ) (index : Nat) (i : Instruction) : Run σ :=
  let r := r.emit e (.started index w.length i)
  let (scene, _) := e.visit w r.scene index i
  { r.emitProgress e index scene.progress with scene, ending := .broken }

/-- Visit instructions until the run ends, `budget` of them at most. -/
def visits (e : Engine σ) (w : Workflow) : (budget : Nat) → Run σ → Run σ
  | 0, r => r
  | budget + 1, r =>
    if r.fatalError.isSome then r
    else
      match w[r.scene.state.counter]? with
      | none => r
      | some i =>
        if r.cancelRequested then
          { r with fatalError := some VisitFailure.cancelledMessage, ending := .cancelled }
        else if e.breaks w r.scene r.scene.state.counter i then
          r.breakOff e w r.scene.state.counter i
        else visits e w budget (r.step e w r.scene.state.counter i)

/-- The entries of the instructions that were never visited. -/
def unvisited (w : Workflow) (visited : List Entry) (fatalError : String) : List Entry :=
  ((List.range w.length).zip w).filterMap fun (index, i) =>
    if visited.any (·.index = index) then none
    else some { index, kind := i.kind, outcome := .skipped, message := s!"Not run: {fatalError}" }

/-- The report of a run that has ended. -/
def report (w : Workflow) (r : Run σ) : RunReport where
  status := if r.ending = .own then .completed else .cancelled
  entries := r.entries.reverse ++
    match r.fatalError with
    | some error => unvisited w r.entries error
    | none => []
  images := r.scene.images
  fatalError := r.fatalError

/-- Whether a workflow needs the provider. -/
def needsProvider (w : Workflow) : Bool :=
  w.any fun i => i.isTrigger || i.kind.support = .partially

/-- The complaint about a provider that cannot be reached. -/
def unreachableMessage (provider : String) : String :=
  s!"Cannot connect to generation provider '{provider}'"

/-- Whether a run can begin: the connection is checked if that is wanted and the workflow needs
it. -/
def checkFirst (e : Engine σ) (w : Workflow) (checksConnection : Bool) (memory : σ) :
    Except OtherError Bool × σ :=
  if checksConnection && needsProvider w then e.provider.checkConnection memory
  else (.ok true, memory)

/-- What breaks off a run while its connection is checked. -/
def interruptedFirst (e : Engine σ) (w : Workflow) (checksConnection : Bool) (memory : σ) :
    Option Interruption :=
  if checksConnection && needsProvider w then e.provider.checkInterruption memory else none

/-- The start of a run, with or without a connection; what was requested while the connection was
checked is honoured before the first visit. -/
def start (e : Engine σ) (connected : Bool) (interruption : Option Interruption)
    (files : FileTree) (memory : σ) : Run σ where
  scene := { files, memory }
  fatalError :=
    if interruption = some .outside then some VisitFailure.cancelledMessage
    else if connected then none
    else some (unreachableMessage e.provider.name)
  cancelRequested := interruption.isSome
  ending := if interruption = some .outside then .abandoned else .own

/-- Show the observers that a run has ended. -/
def finish (e : Engine σ) (w : Workflow) (r : Run σ) : Run σ :=
  r.emit e (.finished (r.report w))

/-- A run from start to end, but for its report. -/
def execute (e : Engine σ) (w : Workflow) (connected : Bool) (interruption : Option Interruption)
    (files : FileTree) (memory : σ) : Run σ :=
  (start e connected interruption files memory).visits e w w.visitBudget

end Run

/-- Why there is no report of a run. -/
inductive RunRefusal where
  /-- The workflow has errors and validation was asked for. -/
  | invalid (report : Report)
  | workingDirectory (directory : FilePath) (error : FileError)
  /-- A run is going on. -/
  | busy
  /-- The check of the connection failed; from then on the engine counts as running. -/
  | check (error : OtherError)
  /-- The run broke; `events` is what the observers saw, latest first.  From then on the engine
  counts as running. -/
  | broken (events : List Event) (fault : ExtentFault)

/-- The wording of a refusal. -/
def RunRefusal.message : RunRefusal → String
  | .busy => OtherError.alreadyRunning.message
  | .check error => error.message
  | .broken _ fault => fault.message
  | .invalid report => report.refusal
  | .workingDirectory _ .nullInPath => nullInPathMessage
  | .workingDirectory directory error =>
    s!"Cannot create working directory {directory.text}: {error.message}"

/-- What lasts from one run of an engine to the next. -/
structure Session (σ : Type) where
  status : RunStatus := .idle
  files : FileTree
  memory : σ

/-- What a session makes of a run that has stopped. -/
def Session.settle {σ : Type} (e : Engine σ) (w : Workflow) (r : Run σ) :
    Session σ × Except RunRefusal (Run σ) :=
  if r.ending = .broken then
    ({ status := .running, files := r.scene.files, memory := r.scene.memory },
      .error (.broken r.events .noPixels))
  else
    let r := r.finish e w
    ({ status := (r.report w).status, files := r.scene.files, memory := r.scene.memory }, .ok r)

/-- Run a workflow: the session afterwards, and the run or why there is no report of it. -/
def Session.run {σ : Type} (s : Session σ) (e : Engine σ) (w : Workflow)
    (checksConnection : Option Bool := none) (enforcesValidation : Bool := false) :
    Session σ × Except RunRefusal (Run σ) :=
  let validation := w.validate
  if s.status = .running then (s, .error .busy)
  else if enforcesValidation && !validation.isValid then (s, .error (.invalid validation))
  else
    match s.files.makeDirectories e.workingDirectory with
    | (files, .error error) =>
      ({ s with files }, .error (.workingDirectory e.workingDirectory error))
    | (files, .ok ()) =>
      let checks := checksConnection.getD e.checksConnection
      let interruption := Run.interruptedFirst e w checks s.memory
      -- whoever gave up is not told what the check comes to
      let perform (connected : Bool) (memory : σ) : Session σ × Except RunRefusal (Run σ) :=
        settle e w (Run.execute e w connected interruption files memory)
      match Run.checkFirst e w checks s.memory with
      | (.error error, memory) =>
        if interruption = some .outside then perform false memory
        else ({ status := .running, files, memory }, .error (.check error))
      | (.ok connected, memory) => perform connected memory

end ImageWorkflow
