import ImageWorkflow.Instruction.Basic

/-!
# The instruction catalogue

For each kind of instruction: `Kind.key` (its name on the wire), `Kind.ofKey?` (the way back),
`Kind.name`, `Kind.title`, `Kind.category`, `Kind.icon`, and how far it is carried out locally
(`Kind.support`, with the reason in `Kind.supportReason`).  `Kind.all` lists the kinds in catalogue
order.
-/

namespace ImageWorkflow

/-- The groups of the catalogue. -/
inductive Category where
  | flowControl
  | promptAndConfig
  | canvas
  | moodboard
  | mask
  | depthAndPose
  | advanced
  | loopOperations
  | generation
  deriving DecidableEq, Repr

/-- The heading of a group. -/
def Category.title : Category → String
  | .flowControl => "Flow Control"
  | .promptAndConfig => "Prompt & Config"
  | .canvas => "Canvas"
  | .moodboard => "Moodboard"
  | .mask => "Mask"
  | .depthAndPose => "Depth & Pose"
  | .advanced => "Advanced"
  | .loopOperations => "Loop Operations"
  | .generation => "Generation"

/-- How far an instruction is carried out. -/
inductive SupportLevel where
  /-- Wholly local. -/
  | full
  /-- As good as the provider's tool. -/
  | partially
  /-- Never; such an instruction is skipped. -/
  | unsupported
  deriving DecidableEq, Repr

/-- The word for a level. -/
def SupportLevel.word : SupportLevel → String
  | .full => "full"
  | .partially => "partial"
  | .unsupported => "unsupported"

namespace Kind

/-- Every kind, in catalogue order. -/
def all : List Kind := [
  .note, .loop, .loopEnd, .stop, .prompt, .negativePrompt, .config, .frames, .canvasClear,
  .canvasLoad, .canvasSave, .moveScale, .adaptSize, .crop, .moodboardClear, .moodboardCanvas,
  .moodboardAdd, .moodboardRemove, .moodboardWeights, .loopAddMoodboard, .maskClear, .maskLoad,
  .maskGet, .maskBackground, .maskForeground, .maskBody, .maskAsk, .depthExtract, .depthCanvas,
  .depthToCanvas, .poseExtract, .poseJson, .removeBackground, .faceZoom, .askZoom,
  .inpaintTools, .xlMagic, .loopLoad, .loopSave, .generate]

/-- The name on the wire. -/
def key : Kind → String
  | .note => "note"
  | .loop => "loop"
  | .loopEnd => "loopEnd"
  | .stop => "end"
  | .prompt => "prompt"
  | .negativePrompt => "negPrompt"
  | .config => "config"
  | .frames => "frames"
  | .canvasClear => "canvasClear"
  | .canvasLoad => "canvasLoad"
  | .canvasSave => "canvasSave"
  | .moveScale => "moveScale"
  | .adaptSize => "adaptSize"
  | .crop => "crop"
  | .moodboardClear => "moodboardClear"
  | .moodboardCanvas => "moodboardCanvas"
  | .moodboardAdd => "moodboardAdd"
  | .moodboardRemove => "moodboardRemove"
  | .moodboardWeights => "moodboardWeights"
  | .loopAddMoodboard => "loopAddMB"
  | .maskClear => "maskClear"
  | .maskLoad => "maskLoad"
  | .maskGet => "maskGet"
  | .maskBackground => "maskBkgd"
  | .maskForeground => "maskFG"
  | .maskBody => "maskBody"
  | .maskAsk => "maskAsk"
  | .depthExtract => "depthExtract"
  | .depthCanvas => "depthCanvas"
  | .depthToCanvas => "depthToCanvas"
  | .poseExtract => "poseExtract"
  | .poseJson => "poseJSON"
  | .removeBackground => "removeBkgd"
  | .faceZoom => "faceZoom"
  | .askZoom => "askZoom"
  | .inpaintTools => "inpaintTools"
  | .xlMagic => "xlMagic"
  | .loopLoad => "loopLoad"
  | .loopSave => "loopSave"
  | .generate => "generate"

/-- The kind with a wire name. -/
def ofKey? (key : String) : Option Kind := all.find? (·.key == key)

/-- The name of the kind. -/
def name : Kind → String
  | .note => "Note"
  | .loop => "Loop"
  | .loopEnd => "LoopEnd"
  | .stop => "End"
  | .prompt => "Prompt"
  | .negativePrompt => "NegativePrompt"
  | .config => "Config"
  | .frames => "Frames"
  | .canvasClear => "CanvasClear"
  | .canvasLoad => "CanvasLoad"
  | .canvasSave => "CanvasSave"
  | .moveScale => "MoveScale"
  | .adaptSize => "AdaptSize"
  | .crop => "Crop"
  | .moodboardClear => "MoodboardClear"
  | .moodboardCanvas => "MoodboardCanvas"
  | .moodboardAdd => "MoodboardAdd"
  | .moodboardRemove => "MoodboardRemove"
  | .moodboardWeights => "MoodboardWeights"
  | .loopAddMoodboard => "LoopAddMoodboard"
  | .maskClear => "MaskClear"
  | .maskLoad => "MaskLoad"
  | .maskGet => "MaskGet"
  | .maskBackground => "MaskBackground"
  | .maskForeground => "MaskForeground"
  | .maskBody => "MaskBody"
  | .maskAsk => "MaskAsk"
  | .depthExtract => "DepthExtract"
  | .depthCanvas => "DepthCanvas"
  | .depthToCanvas => "DepthToCanvas"
  | .poseExtract => "PoseExtract"
  | .poseJson => "PoseJSON"
  | .removeBackground => "RemoveBackground"
  | .faceZoom => "FaceZoom"
  | .askZoom => "AskZoom"
  | .inpaintTools => "InpaintTools"
  | .xlMagic => "XLMagic"
  | .loopLoad => "LoopLoad"
  | .loopSave => "LoopSave"
  | .generate => "Generate"

/-- The title shown to users. -/
def title : Kind → String
  | .note => "Note"
  | .loop => "Loop"
  | .loopEnd => "Loop End"
  | .stop => "End"
  | .prompt => "Prompt"
  | .negativePrompt => "Negative Prompt"
  | .config => "Config"
  | .frames => "Frames"
  | .canvasClear => "Clear Canvas"
  | .canvasLoad => "Load Canvas"
  | .canvasSave => "Save Canvas"
  | .moveScale => "Move & Scale"
  | .adaptSize => "Adapt Size"
  | .crop => "Crop"
  | .moodboardClear => "Clear Moodboard"
  | .moodboardCanvas => "Canvas to Moodboard"
  | .moodboardAdd => "Add to Moodboard"
  | .moodboardRemove => "Remove from Moodboard"
  | .moodboardWeights => "Moodboard Weights"
  | .loopAddMoodboard => "Loop Add Moodboard"
  | .maskClear => "Clear Mask"
  | .maskLoad => "Load Mask"
  | .maskGet => "Get Mask"
  | .maskBackground => "Mask Background"
  | .maskForeground => "Mask Foreground"
  | .maskBody => "Mask Body"
  | .maskAsk => "AI Mask"
  | .depthExtract => "Extract Depth"
  | .depthCanvas => "Canvas to Depth"
  | .depthToCanvas => "Depth to Canvas"
  | .poseExtract => "Extract Pose"
  | .poseJson => "Pose from JSON"
  | .removeBackground => "Remove Background"
  | .faceZoom => "Face Zoom"
  | .askZoom => "AI Zoom"
  | .inpaintTools => "Inpaint Tools"
  | .xlMagic => "XL Magic"
  | .loopLoad => "Loop Load"
  | .loopSave => "Loop Save"
  | .generate => "Generate"

/-- The name of the symbol shown beside the title. -/
def icon : Kind → String
  | .note => "text.bubble"
  | .loop => "repeat"
  | .loopEnd => "repeat.1"
  | .stop => "stop.fill"
  | .prompt => "text.cursor"
  | .negativePrompt => "minus.circle"
  | .config => "gearshape"
  | .frames => "film"
  | .canvasClear => "trash"
  | .canvasLoad => "square.and.arrow.down"
  | .canvasSave => "square.and.arrow.up"
  | .moveScale => "arrow.up.left.and.arrow.down.right"
  | .adaptSize => "aspectratio"
  | .crop => "crop"
  | .moodboardClear => "rectangle.stack.badge.minus"
  | .moodboardCanvas => "rectangle.stack.badge.plus"
  | .moodboardAdd => "plus.rectangle.on.rectangle"
  | .moodboardRemove => "minus.rectangle"
  | .moodboardWeights => "slider.horizontal.3"
  | .loopAddMoodboard => "rectangle.stack"
  | .maskClear => "eraser"
  | .maskLoad => "theatermask.and.paintbrush"
  | .maskGet => "square.on.square.dashed"
  | .maskBackground => "rectangle.dashed.badge.record"
  | .maskForeground => "person.crop.rectangle"
  | .maskBody => "figure.stand"
  | .maskAsk => "wand.and.stars"
  | .depthExtract => "cube.transparent"
  | .depthCanvas => "square.3.layers.3d.down.left"
  | .depthToCanvas => "square.3.layers.3d.down.right"
  | .poseExtract => "figure.walk"
  | .poseJson => "figure.arms.open"
  | .removeBackground => "person.crop.rectangle.badge.plus"
  | .faceZoom => "face.smiling"
  | .askZoom => "magnifyingglass"
  | .inpaintTools => "paintbrush.pointed"
  | .xlMagic => "wand.and.rays"
  | .loopLoad => "folder"
  | .loopSave => "folder.badge.plus"
  | .generate => "sparkles"

/-- The group in the catalogue. -/
def category : Kind → Category
  | .note | .loop | .loopEnd | .stop =>
    .flowControl
  | .prompt | .negativePrompt | .config | .frames =>
    .promptAndConfig
  | .canvasClear | .canvasLoad | .canvasSave | .moveScale | .adaptSize | .crop =>
    .canvas
  | .moodboardClear | .moodboardCanvas | .moodboardAdd | .moodboardRemove |
  .moodboardWeights | .loopAddMoodboard =>
    .moodboard
  | .maskClear | .maskLoad | .maskGet | .maskBackground | .maskForeground | .maskBody |
  .maskAsk =>
    .mask
  | .depthExtract | .depthCanvas | .depthToCanvas | .poseExtract | .poseJson =>
    .depthAndPose
  | .removeBackground | .faceZoom | .askZoom | .inpaintTools | .xlMagic =>
    .advanced
  | .loopLoad | .loopSave =>
    .loopOperations
  | .generate =>
    .generation

/-- How far the kind is carried out. -/
def support : Kind → SupportLevel
  | .maskBackground | .maskForeground | .maskBody | .maskAsk | .depthExtract | .poseExtract
  | .removeBackground | .faceZoom | .askZoom =>
    .partially
  | .xlMagic => .unsupported
  | _ => .full

/-- Why the kind is carried out so far and no further. -/
def supportReason : Kind → String
  | .note => "Comment; ignored during execution"
  | .loop => "Loop control handled by the engine"
  | .loopEnd => "Loop control handled by the engine"
  | .stop => "Stops the pipeline"
  | .prompt => "Sets the positive prompt"
  | .negativePrompt => "Sets the negative prompt"
  | .config => "Merged into the generation config"
  | .frames => "Sets the frame count for video models"
  | .canvasClear => "Clears the canvas"
  | .canvasLoad => "Loads an image from the working directory"
  | .canvasSave => "Generates if needed and saves to the working directory"
  | .moveScale => "Canvas transform emulated locally"
  | .adaptSize => "Canvas resize emulated locally"
  | .crop => "Crops the canvas to its visible content"
  | .moodboardClear => "Clears the moodboard"
  | .moodboardCanvas => "Adds the canvas to the moodboard"
  | .moodboardAdd => "Loads a moodboard image from the working directory"
  | .moodboardRemove => "Removes a moodboard entry"
  | .moodboardWeights => "Sets moodboard weights"
  | .loopAddMoodboard => "Adds the iteration's image to the moodboard"
  | .maskClear => "Clears the mask"
  | .maskLoad => "Loads a mask from the working directory"
  | .maskGet => "Derives the mask from the canvas alpha channel"
  | .maskBackground => "Background detection runs on the provider"
  | .maskForeground => "Foreground detection runs on the provider"
  | .maskBody => "Body segmentation runs on the provider"
  | .maskAsk => "Prompted masking runs on the provider"
  | .depthExtract => "Depth estimation runs on the provider"
  | .depthCanvas => "Copies the canvas into the depth layer"
  | .depthToCanvas => "Copies the depth layer onto the canvas"
  | .poseExtract => "Pose detection runs on the provider"
  | .poseJson => "Sets the pose layer from JSON"
  | .removeBackground => "Background removal runs on the provider"
  | .faceZoom => "Face detection runs on the provider"
  | .askZoom => "Prompted zoom runs on the provider"
  | .inpaintTools => "Inpainting options are sent with the next request"
  | .xlMagic => "SDXL latent tuning has no local or remote equivalent"
  | .loopLoad => "Loads the iteration's image from a folder"
  | .loopSave => "Generates if needed and saves with the iteration index"
  | .generate => "Calls the generation provider"

end Kind

end ImageWorkflow
