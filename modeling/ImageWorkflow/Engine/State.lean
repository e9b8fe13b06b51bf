import ImageWorkflow.Image.Fit
import ImageWorkflow.Settings.Request
import ImageWorkflow.Text.Blank
import ImageWorkflow.Workflow.Loops

/-!
# The state of a run

`RunState` : everything that the instructions of a run read and write, the files apart.
* `RunState.hasPrompt` : a blank prompt counts as none;
* `RunState.fitMask` : the mask stretched to the canvas, if it can be (`RunState.canFit`);
* `RunState.parameters` : the settings so far on top of a baseline;
* `RunState.snapshot` : the state in brief.
-/

namespace ImageWorkflow

/-- An entry of the moodboard. -/
structure MoodboardEntry where
  image : Image
  weight : Binary64 := .ofRat 1
  source : String

/-- A loop that is being run. -/
structure LoopFrame where
  /-- The index of the `loop` instruction. -/
  startIndex : Nat
  /-- The first iteration's index. -/
  start : Int
  count : Int
  /-- The current iteration's index. -/
  current : Int
  deriving DecidableEq, Repr

/-- How many iterations are behind the current one. -/
def LoopFrame.offset (f : LoopFrame) : Int := f.current - f.start

/-- The canvas. -/
structure Canvas where
  image : Image
  /-- Which of the run's generated images it is, as long as it is one of them unchanged. -/
  origin : Option Nat := none

/-- The state of a run. -/
structure RunState where
  canvas : Option Canvas := none
  moodboard : List MoodboardEntry := []
  mask : Option Image := none
  depth : Option Image := none
  pose : Option Members := none
  settings : Settings := {}
  inpainting : Inpainting := {}
  prompt : String := ""
  negativePrompt : String := ""
  /-- The loops being run, innermost first. -/
  loops : List LoopFrame := []
  /-- The index of the next instruction. -/
  counter : Nat := 0
  /-- Whether a generated image waits for the next save. -/
  fresh : Bool := false

namespace RunState

/-- The canvas's image. -/
def canvasImage (s : RunState) : Option Image := s.canvas.map (·.image)

/-- Whether there is a prompt that is not blank. -/
def hasPrompt (s : RunState) : Bool := !Text.isBlankText s.prompt

/-- Add settings. -/
def addSettings (s : RunState) (more : Settings) : RunState :=
  { s with settings := s.settings.merge more }

/-- The generation parameters of the moment. -/
def parameters (s : RunState) (baseline : Generation) : Generation :=
  { (baseline.withSettings s.settings).withInpainting s.inpainting with
    negativePrompt := s.negativePrompt }

/-- Stretch the mask to the canvas, if there are both and their sizes differ. -/
def fitMask (s : RunState) : RunState :=
  match s.mask, s.canvas with
  | some mask, some canvas =>
    if mask.size = canvas.image.size then s
    else { s with mask := some (mask.resize canvas.image.width canvas.image.height) }
  | _, _ => s

/-- Whether the mask can be stretched to the canvas: not if it has another size, and the canvas has
no pixels. -/
def canFit (s : RunState) : Bool :=
  match s.mask, s.canvas with
  | some mask, some canvas =>
    mask.size = canvas.image.size || (0 < canvas.image.width && 0 < canvas.image.height)
  | _, _ => true

/-- The innermost loop. -/
def frame? (s : RunState) : Option LoopFrame := s.loops.head?

/-- The current index of the innermost loop. -/
def iteration? (s : RunState) : Option Int := s.frame?.map (·.current)

/-- The state in brief. -/
def snapshot (s : RunState) : Json :=
  .object [("has_canvas", .bool s.canvas.isSome),
    ("canvas_size", match s.canvas with
      | some canvas => .array [.int canvas.image.width, .int canvas.image.height]
      | none => .null),
    ("moodboard", .array (s.moodboard.map fun entry =>
      .object [("source", .str entry.source), ("weight", .float entry.weight)])),
    ("has_mask", .bool s.mask.isSome), ("has_depth", .bool s.depth.isSome),
    ("has_pose", .bool s.pose.isSome), ("settings", .object s.settings.toWire),
    ("prompt", .str s.prompt), ("negative_prompt", .str s.negativePrompt),
    ("loop_depth", .int s.loops.length)]

end RunState

end ImageWorkflow
