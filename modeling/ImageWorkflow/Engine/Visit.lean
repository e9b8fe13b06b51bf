import ImageWorkflow.Engine.Basic
import ImageWorkflow.Engine.Local
import ImageWorkflow.Instruction.Wire

/-!
# The visit of an instruction

* `Engine.render` : one call for images; the first image becomes the canvas;
* `Engine.save` : write an image, with the plugins before and after;
* `Engine.renderAndSave` : save the canvas, after a render when one is due;
* `Engine.applyTool` : have the provider make a mask, a depth layer, a pose or a canvas;
* `Engine.conduct` : the instruction, whatever it is;
* `Engine.visit` : the same, and the judgement (`Verdict`) that the report shows;
* `Engine.breaks` : whether the visit breaks the run, since it leaves a mask that cannot be
  fitted.
-/

namespace ImageWorkflow

/-! ## Rendering -/

/-- How a generation starts: from nothing, from the canvas, or from the canvas where a mask
allows. -/
inductive GenerationMode where
  | textToImage
  | imageToImage
  | inpainting
  deriving DecidableEq, Repr

/-- The word for a mode. -/
def GenerationMode.word : GenerationMode → String
  | .textToImage => "txt2img"
  | .imageToImage => "img2img"
  | .inpainting => "inpainting"

namespace RunState

/-- How the next generation starts. -/
def mode (s : RunState) : GenerationMode :=
  if s.canvas.isNone then .textToImage
  else if s.mask.isSome then .inpainting
  else .imageToImage

/-- Whether there is anything to generate from. -/
def canGenerate (s : RunState) : Bool :=
  s.hasPrompt || s.canvas.isSome || !s.moodboard.isEmpty

/-- The prompt that a generation is given; a blank one counts as none. -/
def usedPrompt (s : RunState) : String := if s.hasPrompt then s.prompt else ""

/-- What the next generation asks for. -/
def generateCall (s : RunState) (baseline : Generation) : GenerateCall where
  prompt := s.usedPrompt
  parameters := s.parameters baseline
  source := s.canvasImage
  mask := if s.canvas.isSome then s.mask else none
  moodboard := s.moodboard.map fun entry => (entry.image, entry.weight)

/-- The records of a generation's images. -/
def records (s : RunState) (baseline : Generation) (index : Nat) (images : List Image) :
    List GeneratedImage :=
  images.map fun image =>
    { image, prompt := s.usedPrompt, negativePrompt := s.negativePrompt,
      parameters := (s.parameters baseline).metadata, index }

end RunState

namespace Engine
variable {σ : Type}

/-- Ask the provider for images: the mode, and how many there are. -/
def render (e : Engine σ) (scene : Scene σ) (index : Nat) :
    Scene σ × Except VisitFailure (GenerationMode × Nat) :=
  if scene.state.canGenerate then
    if scene.state.canFit then
      let state := scene.state.fitMask
      let (reply, memory) := e.provider.generate scene.memory (state.generateCall e.baseline)
      let scene := { scene with state, memory, progress := scene.progress ++ reply.progress }
      match reply.result with
      | .error failure => (scene, .error (.ofCall failure))
      | .ok [] => (scene, refuseVisit .noImageGenerated)
      | .ok (first :: rest) =>
        let canvas : Canvas := { image := first, origin := some scene.images.length }
        ({ scene with
            state := { state with canvas := some canvas }
            images := scene.images ++ state.records e.baseline index (first :: rest) },
          .ok (state.mode, rest.length + 1))
    else (scene, .error (.unforeseen (.extent .noPixels)))
  else (scene, refuseVisit .nothingToGenerate)

/-! ## Saving -/

/-- The path that the plugins give to an image that is to be saved at `path`. -/
def redirect (files : FileTree) (path : FilePath) :
    List SavePlugin → FileTree × Except PluginError FilePath
  | [] => (files, .ok path)
  | plugin :: rest =>
    match plugin.beforeSave files path with
    | (files, .ok path) => redirect files path rest
    | (files, .error error) => (files, .error error)

/-- What the plugins add to an image saved at `path`. -/
def accompany (files : FileTree) (image : Image) (path : FilePath) (parameters : Members)
    (now : String) : List SavePlugin → FileTree × Except PluginError Unit
  | [] => (files, .ok ())
  | plugin :: rest =>
    match plugin.afterSave files image path parameters now with
    | (files, .ok ()) => accompany files image path parameters now rest
    | (files, .error error) => (files, .error error)

/-- Write an image file and the directories above it. -/
def writeWithDirectories (files : FileTree) (path : FilePath) (image : Image) :
    FileTree × Except WriteError Unit :=
  match files.makeDirectories path.parent with
  | (files, .ok ()) => files.writeImage path image
  | (files, .error error) => (files, .error (.file error))

/-- Save an image under a name, with the plugins that are switched on: the path it was written
to. -/
def save (e : Engine σ) (files : FileTree) (image : Image) (name : String) (parameters : Members) :
    FileTree × Except VisitFailure FilePath :=
  let plugins := e.plugins.filter (·.isEnabled)
  match insidePath e.workingDirectory name with
  | .error failure => (files, .error failure)
  | .ok path =>
    match redirect files path plugins with
    | (files, .error error) => (files, .error (.unforeseen (.plugin error)))
    | (files, .ok path) =>
      match writeWithDirectories files path image with
      | (files, .error error) => (files, refuseVisit (.unwritableImage name error))
      | (files, .ok ()) =>
        match accompany files image path parameters e.now plugins with
        | (files, .error error) => (files, .error (.unforeseen (.plugin error)))
        | (files, .ok ()) => (files, .ok path)

/-- The parameters that the plugins are given with a saved image. -/
def saveParameters (e : Engine σ) (s : RunState) (index : Nat) : Members :=
  ("prompt", .str s.prompt) :: (s.parameters e.baseline).metadata ++
    [("instruction_index", .int index)] ++
    match s.iteration? with
    | some iteration => [("iteration", .int iteration)]
    | none => []

/-- Where a saved image comes from. -/
inductive SaveSource where
  /-- An earlier generation that waited for this save. -/
  | pending
  | rendered (mode : GenerationMode)
  /-- The canvas as it is. -/
  | canvas
  deriving DecidableEq, Repr

/-- The word for a source. -/
def SaveSource.word : SaveSource → String
  | .pending => "generated"
  | .rendered mode => mode.word
  | .canvas => "canvas"

/-- Settle what is saved: an image that waits, the outcome of a render, or the canvas as it is.  An
image that waits does so no longer, whatever becomes of the save. -/
def settleSave (e : Engine σ) (scene : Scene σ) (index : Nat) :
    Scene σ × Except VisitFailure SaveSource :=
  if scene.state.fresh && scene.state.canvas.isSome then
    ({ scene with state.fresh := false }, .ok .pending)
  else if scene.state.hasPrompt then
    match e.render scene index with
    | (scene, .ok (mode, _)) => (scene, .ok (.rendered mode))
    | (scene, .error failure) => (scene, .error failure)
  else if scene.state.canvas.isSome then (scene, .ok .canvas)
  else (scene, refuseVisit .nothingToSave)

/-- Note where a generated image was saved. -/
def noteSaved (images : List GeneratedImage) (origin : Option Nat) (path : FilePath) :
    List GeneratedImage :=
  match origin with
  | some place => images.modify place ({ · with savedAt := some path })
  | none => images

/-- Save the canvas under a name, after a render when one is due. -/
def renderAndSave (e : Engine σ) (scene : Scene σ) (index : Nat) (name : String) :
    Scene σ × Except VisitFailure String :=
  match e.settleSave scene index with
  | (scene, .error failure) => (scene, .error failure)
  | (scene, .ok source) =>
    match scene.state.canvas with
    | none => (scene, refuseVisit .nothingToSave)
    | some canvas =>
      match e.save scene.files canvas.image name (e.saveParameters scene.state index) with
      | (files, .error failure) => ({ scene with files }, .error failure)
      | (files, .ok path) =>
        let origin := if source = .canvas then none else canvas.origin
        ({ scene with files, images := noteSaved scene.images origin path },
          .ok s!"Saved {source.word} image: {name}")

/-! ## Tools -/

/-- The layer that a tool's answer goes to. -/
inductive ToolTarget where
  | mask
  | depth
  | pose
  | canvas
  deriving DecidableEq, Repr

/-- The layer that a provider's tool works for; none for the other instructions. -/
def toolTarget? : Kind → Option ToolTarget
  | .maskBackground | .maskForeground | .maskBody | .maskAsk => some .mask
  | .depthExtract => some .depth
  | .poseExtract => some .pose
  | .removeBackground | .faceZoom | .askZoom => some .canvas
  | _ => none

/-- The parameters of a tool call: a text stands for a description. -/
def toolParameters (i : Instruction) : Members :=
  match i.payload with
  | .object members => members
  | .str text => [("description", .str text)]
  | _ => []

/-- The state with a tool's answer in its layer. -/
def receive (s : RunState) (tool : Kind) (target : ToolTarget) (answer : ToolResult) :
    Except VisitFailure RunState :=
  match target, answer.image with
  | .pose, _ => .ok { s with pose := some answer.data }
  | _, none => refuseVisit (.noToolImage tool)
  | .mask, some image => .ok { s with mask := some image.toGrey }
  | .depth, some image => .ok { s with depth := some image }
  | .canvas, some image => .ok (s.setCanvas image)

/-- Have the provider apply a tool to the canvas. -/
def applyTool (e : Engine σ) (scene : Scene σ) (i : Instruction) (target : ToolTarget) :
    Scene σ × Except VisitFailure String :=
  match scene.state.requireCanvas i.kind with
  | .error failure => (scene, .error failure)
  | .ok image =>
    let call : ToolCall := { tool := i.kind, image, parameters := toolParameters i }
    let (reply, memory) := e.provider.applyTool scene.memory call
    let scene := { scene with memory, progress := scene.progress ++ reply.progress }
    match reply.result with
    | .error failure => (scene, .error (.ofCall failure))
    | .ok answer =>
      match receive scene.state i.kind target answer with
      | .error failure => (scene, .error failure)
      | .ok state => ({ scene with state }, .ok s!"{i.kind.title} completed")

/-! ## All instructions -/

/-- Carry out the instruction at `index`. -/
def conduct (e : Engine σ) (w : Workflow) (scene : Scene σ) (index : Nat) (i : Instruction) :
    Scene σ × Except VisitFailure String :=
  match toolTarget? i.kind with
  | some target => e.applyTool scene i target
  | none =>
    match i with
    | .generate =>
      match e.render scene index with
      | (scene, .ok (mode, count)) =>
        ({ scene with state.fresh := true }, .ok s!"Generated {count} image(s) via {mode.word}")
      | (scene, .error failure) => (scene, .error failure)
    | .canvasSave name => e.renderAndSave scene index name
    | .loopSave stem =>
      match scene.state.requireFrame i.kind with
      | .ok frame => e.renderAndSave scene index s!"{stem}{frame.current}.png"
      | .error failure => (scene, .error failure)
    | i =>
      match scene.state.perform w e.workingDirectory scene.files index i with
      | .ok (state, message) => ({ scene with state }, .ok message)
      | .error failure => (scene, .error failure)

/-- What is judged of a visit. -/
inductive Verdict where
  | done (message : String)
  /-- The engine does not support the instruction. -/
  | passedOver (reason : String)
  | failed (failure : VisitFailure)

/-- The outcome that the report shows. -/
def Verdict.outcome (i : Instruction) : Verdict → Outcome
  | .done _ => if i.isControl then .control else .executed
  | .passedOver _ | .failed (.interrupted _) => .skipped
  | .failed _ => .failed

/-- The message that the report shows. -/
def Verdict.message : Verdict → String
  | .done message | .passedOver message => message
  | .failed failure => failure.message

/-- Why the run ends with the visit. -/
def Verdict.fatalError : Verdict → Option String
  | .failed failure => if failure.isFatal then some failure.message else none
  | _ => none

/-- Visit the instruction at `index`: the counter moves on first, and after a success the mask is
fitted to the canvas. -/
def visit (e : Engine σ) (w : Workflow) (scene : Scene σ) (index : Nat) (i : Instruction) :
    Scene σ × Verdict :=
  let scene := { scene with state.counter := index + 1, progress := [] }
  if i.kind.support = .unsupported then (scene, .passedOver i.kind.supportReason)
  else
    match e.conduct w scene index i with
    | (scene, .ok message) => ({ scene with state := scene.state.fitMask }, .done message)
    | (scene, .error failure) => (scene, .failed failure)

/-- Whether the visit breaks the run: the instruction succeeds, but the mask cannot be fitted to the
canvas that it leaves. -/
def breaks (e : Engine σ) (w : Workflow) (scene : Scene σ) (index : Nat) (i : Instruction) : Bool :=
  let scene := { scene with state.counter := index + 1, progress := [] }
  i.kind.support ≠ .unsupported &&
    match e.conduct w scene index i with
    | (scene, .ok _) => !scene.state.canFit
    | (_, .error _) => false

end Engine

end ImageWorkflow
