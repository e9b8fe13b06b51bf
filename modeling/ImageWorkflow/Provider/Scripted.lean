import ImageWorkflow.Instruction.Catalogue
import ImageWorkflow.Provider.Basic

/-!
# A scripted provider

`ScriptedProvider` : a provider that follows a script: one step for each generation call, the last
one for all further calls, and one step for each tool.  It keeps what it was asked (`Rehearsal`), so
that a workflow can be rehearsed without a backend.
-/

namespace ImageWorkflow

/-- How a scripted call ends. -/
inductive ScriptedEnd where
  | answer
  | fail (failure : CallFailure)

/-- The script of one generation call. -/
structure GenerateStep where
  progress : List Progress := []
  /-- Whether another run is attempted from inside a call that is answered. -/
  reenters : Bool := false
  ending : ScriptedEnd := .answer
  /-- The images of the answer, or how many to make up. -/
  images : List Image ⊕ Nat := .inr 1

/-- The script of one tool. -/
structure ToolStep where
  ending : ScriptedEnd := .answer
  image : Option Image := none
  data : Members := []

/-- A script. -/
structure Script where
  name : String := "fake"
  description : String := "scripted"
  connected : Bool := true
  steps : List GenerateStep := [{}]
  tools : List (String × ToolStep) := []

/-- A call in the log of a rehearsal. -/
inductive RehearsedCall where
  | generate (call : GenerateCall)
  /-- A run attempted from inside a call, and why it was refused. -/
  | refusedRun (error : OtherError)

/-- What a scripted provider was asked so far. -/
structure Rehearsal where
  checks : Nat := 0
  /-- The number of generation calls. -/
  generated : Nat := 0
  calls : List RehearsedCall := []
  toolCalls : List ToolCall := []

namespace Script

/-- The largest side of an image that is made up. -/
def maxSide : Int := 128

/-- A number of pixels between one and `maxSide`. -/
def clampSide : Quantity → Nat
  | .whole n => (max 1 (min maxSide n)).toNat
  | .real x => (max 1 (min maxSide ((x.toRat?.map Rat.floor).getD 1))).toNat

/-- The images made up for the `k`-th call. -/
def madeUp (g : Generation) (k count : Nat) : List Image :=
  let color : Color := { c0 := UInt8.ofNat (40 * k % 256) }
  List.replicate count (Image.solid .rgb (clampSide g.width) (clampSide g.height) color)

/-- The step of the `k`-th call, counted from one. -/
def step (s : Script) (k : Nat) : GenerateStep :=
  (s.steps[min (k - 1) (s.steps.length - 1)]?).getD {}

/-- Carry out one generation call. -/
def generate (s : Script) (r : Rehearsal) (call : GenerateCall) : Reply (List Image) × Rehearsal :=
  let k := r.generated + 1
  let step := s.step k
  let calls := r.calls ++ [.generate call]
  match step.ending with
  | .fail failure =>
    ({ progress := step.progress, result := .error failure }, { r with generated := k, calls })
  | .answer =>
    let images := match step.images with
      | .inl images => images
      | .inr count => madeUp call.parameters k count
    let calls := if step.reenters then calls ++ [.refusedRun .alreadyRunning] else calls
    ({ progress := step.progress, result := .ok images }, { r with generated := k, calls })

/-- Carry out one tool call. -/
def applyTool (s : Script) (r : Rehearsal) (call : ToolCall) : Reply ToolResult × Rehearsal :=
  let result := match s.tools.lookup call.tool.key with
    | none => .error (.reported (.toolNotSupported call.tool.key s.name))
    | some step =>
      match step.ending with
      | .fail failure => .error failure
      | .answer => .ok ⟨step.image, step.data⟩
  ({ result }, { r with toolCalls := r.toolCalls ++ [call] })

/-- The provider that follows a script. -/
def provider (s : Script) : Provider Rehearsal where
  name := s.name
  info := [("name", .str s.name), ("description", .str s.description)]
  checkConnection := fun r => (.ok s.connected, { r with checks := r.checks + 1 })
  generate := s.generate
  applyTool := s.applyTool
  models := fun r => (.ok [], r)
  loras := fun r => (.ok [], r)

end Script

end ImageWorkflow
