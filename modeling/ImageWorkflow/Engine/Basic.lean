import ImageWorkflow.Engine.Report
import ImageWorkflow.Provider.Basic
import ImageWorkflow.Saving.Plugin

/-!
# Engines

`Engine σ` : what a run is given and does not change: a provider with memory `σ`, the working
directory, plugins, the generation parameters to start from, observers.
`Scene σ` : what the visit of an instruction may change: the state, the images generated so far, the
files, the provider's memory.
-/

namespace ImageWorkflow

/-- What an observer does about an event. -/
inductive Reaction where
  | none
  /-- Request that the run be cancelled. -/
  | cancel
  /-- Fail; nobody takes notice. -/
  | fail
  deriving DecidableEq, Repr

/-- An observer of a run: its reaction to the latest of the events so far, latest first. -/
abbrev Observer := List Event → Reaction

/-- The observer that requests cancellation when the instruction with `n` visits before it is
started. -/
def Observer.cancelAtStart (n : Nat) : Observer := fun events =>
  let isStart : Event → Bool
    | .started .. => true
    | _ => false
  if (events.head?.any isStart) && events.countP isStart = n + 1 then .cancel else .none

/-- What a run is given. -/
structure Engine (σ : Type) where
  provider : Provider σ
  workingDirectory : FilePath
  plugins : List SavePlugin := []
  /-- The generation parameters that no instruction sets. -/
  baseline : Generation := {}
  /-- Whether a run checks the connection first, when nothing else is said. -/
  checksConnection : Bool := true
  observers : List Observer := []
  /-- The time that is written into files. -/
  now : String := ""

/-- What the visit of an instruction may change. -/
structure Scene (σ : Type) where
  state : RunState := {}
  /-- The images of all generations, in order. -/
  images : List GeneratedImage := []
  files : FileTree
  memory : σ
  /-- The progress reported since the visit began. -/
  progress : List Progress := []

end ImageWorkflow
