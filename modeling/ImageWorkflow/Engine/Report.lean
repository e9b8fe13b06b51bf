import ImageWorkflow.Engine.State
import ImageWorkflow.Instruction.Catalogue
import ImageWorkflow.Files.Path
import ImageWorkflow.Provider.Progress

/-!
# What a run reports

`Entry` : the outcome of one visit of an instruction, or of an instruction that was never visited.
`GeneratedImage` : an image from the provider, with how it was made and where it was saved.
`RunReport` : both, in order, and how the run ended.  `Event` : what an observer sees while a run
goes on.  `logLine` : an entry in the log.
-/

namespace ImageWorkflow

/-- What became of a visit. -/
inductive Outcome where
  | executed
  | skipped
  | failed
  /-- A comment or an instruction that steers the run; not counted. -/
  | control
  deriving DecidableEq, Repr

/-- The word for an outcome. -/
def Outcome.word : Outcome → String
  | .executed => "executed"
  | .skipped => "skipped"
  | .failed => "failed"
  | .control => "control"

/-- The outcome of an instruction. -/
structure Entry where
  index : Nat
  kind : Kind
  outcome : Outcome
  message : String := ""
  /-- The index of the innermost loop at the visit. -/
  iteration : Option Int := none
  deriving DecidableEq, Repr

/-- Whether the instruction was carried out. -/
def Entry.succeeded (e : Entry) : Bool := e.outcome = .executed || e.outcome = .control

/-- An image from the provider. -/
structure GeneratedImage where
  image : Image
  prompt : String
  negativePrompt : String
  parameters : Members
  /-- The index of the instruction that asked for it. -/
  index : Nat
  savedAt : Option FilePath := none

/-- The states of an engine. -/
inductive RunStatus where
  | idle
  | running
  | completed
  | cancelled
  deriving DecidableEq, Repr

/-- The word for a status. -/
def RunStatus.word : RunStatus → String
  | .idle => "idle"
  | .running => "running"
  | .completed => "completed"
  | .cancelled => "cancelled"

/-- How a run went. -/
structure RunReport where
  status : RunStatus
  entries : List Entry
  images : List GeneratedImage
  /-- Why the run ended before its time. -/
  fatalError : Option String := none

namespace RunReport

/-- The number of entries with an outcome. -/
def count (r : RunReport) (outcome : Outcome) : Nat := r.entries.countP (·.outcome = outcome)

/-- Whether the run came to its end. -/
def succeeded (r : RunReport) : Bool := r.status = .completed && r.fatalError.isNone

/-- The files that hold generated images, in the order of the images. -/
def savedFiles (r : RunReport) : List FilePath := r.images.filterMap (·.savedAt)

/-- The report in one line; `duration` is in seconds. -/
def summary (r : RunReport) (duration : String) : String :=
  s!"{r.count .executed} executed, {r.count .skipped} skipped, {r.count .failed} failed, " ++
    s!"{r.images.length} images in {duration}s" ++
    match r.fatalError with
    | some "" | none => ""
    | some error => s!" (aborted: {error})"

end RunReport

/-- What an observer sees. -/
inductive Event where
  | started (index total : Nat) (instruction : Instruction)
  | progress (index : Nat) (progress : Progress)
  /-- The end of a visit, with the state of that moment. -/
  | completed (entry : Entry) (state : RunState)
  | finished (report : RunReport)

/-- An entry in the log; `time` is the time of day. -/
def Entry.logLine (e : Entry) (time : String) : String :=
  s!"[{time}] #{e.index} {e.kind.title}: {e.outcome.word}" ++
    if e.message = "" then "" else s!" - {e.message}"

end ImageWorkflow
