import ImageWorkflow.Engine.Failure
import ImageWorkflow.Text.Extension

/-!
# Instructions carried out locally

`RunState.perform` : the effect of the instructions that need no provider and write no file: a new
state and what is said about it, or why there is none.  A failure leaves nothing behind, since the
new state is all that such an instruction gives.
* `insidePath` : the path that a name of a workflow stands for, which must not leave the working
  directory;
* `iterationImage` : the image of a folder for the current iteration of a loop;
* `RunState.moveScale`, `RunState.crop`, `RunState.adaptSize` : canvas and mask together.
-/

namespace ImageWorkflow

/-- Fail for a cause that the instruction knows. -/
def refuseVisit {α : Type} (fault : InstructionFault) : Except VisitFailure α :=
  .error (.fault fault)

/-! ## Files -/

/-- The path that a name stands for, seen from the working directory, which it must not leave. -/
def insidePath (workingDirectory : FilePath) (name : String) : Except VisitFailure FilePath :=
  if name = "" then refuseVisit .emptyPath
  else if FilePath.hasNull name then .error (.unforeseen (.file .nullInPath))
  else
    let root := workingDirectory.normalize
    let path := root.resolve name
    if root.contains path then .ok path else refuseVisit (.escapingPath name)

/-- The image in a file; `label` is its name in a complaint. -/
def FileTree.openImage (files : FileTree) (path : FilePath) (label : String) :
    Except VisitFailure Image :=
  match files.read path with
  | .ok (.image image) => .ok image
  | _ => refuseVisit (.unreadableImage label path)

/-- The answer to a question about files. -/
def askFiles {α : Type} (answer : Except FileError α) : Except VisitFailure α :=
  answer.mapError fun error => .unforeseen (.file error)

/-- The image in the file that a name stands for. -/
def loadImage (workingDirectory : FilePath) (files : FileTree) (role : FileRole) (name : String) :
    Except VisitFailure Image := do
  let path ← insidePath workingDirectory name
  if ← askFiles (files.isFile path) then files.openImage path name
  else refuseVisit (.fileNotFound role name)

/-- The first of the names that a file in the directory has. -/
def firstFile (files : FileTree) (directory : FilePath) :
    List String → Except VisitFailure (Option String)
  | [] => .ok none
  | name :: rest => do
    if ← askFiles (files.isFile (directory.child name)) then return some name
    else firstFile files directory rest

/-- The names of a directory's image files, in code point order. -/
def imageNames (files : FileTree) (directory : FilePath) : List String :=
  let isImageFile (name : String) : Bool :=
    Text.imageExtensions.contains (Text.lowerAscii (Text.extension name)) &&
      match files.isFile (directory.child name) with
      | .ok answer => answer
      | .error _ => false
  ((files.entryNames directory).filter isImageFile).mergeSort fun a b => a ≤ b

/-- The image of a folder for the current iteration of a loop, and its name: the file named by the
iteration's index, or else the folder's image with the iteration's place in the order of names. -/
def iterationImage (workingDirectory : FilePath) (files : FileTree) (folder : String)
    (frame : LoopFrame) : Except VisitFailure (Image × String) := do
  let directory ← insidePath workingDirectory folder
  if ← askFiles (files.isDirectory directory) then
    let numbered := Text.imageExtensions.map fun extension => toString frame.current ++ extension
    let name ← match ← firstFile files directory numbered with
      | some name => .ok name
      | none =>
        let names := imageNames files directory
        match names[frame.offset.toNat]? with
        | some name => .ok name
        | none => refuseVisit (.folderExhausted folder frame.offset names.length)
    return (← files.openImage (directory.child name) name, name)
  else refuseVisit (.folderNotFound folder)

/-! ## Canvas, mask and moodboard -/

/-- The largest number of the machine's widest integers. -/
def maxWord : Int := 9223372036854775807

/-- The largest coordinate of images. -/
def maxCoordinate : Int := 2147483647

/-- The longest side that an image can be scaled to in memory. -/
def maxScaledSide : Int := 53687091

/-- Whether a number is a coordinate. -/
def checkCoordinate (n : Int) : Except ExtentFault Unit :=
  if n > maxWord ∨ n < -maxWord - 1 then .error .pastWord
  else if n > maxCoordinate then .error .tooLarge
  else if n < -maxCoordinate - 1 then .error .tooSmall
  else .ok ()

/-- A side's length after scaling, at least one pixel. -/
def scaledSide (side : Nat) (scale : Binary64) : Except ExtentFault Int :=
  match ((Binary64.ofRat side).mul scale).toRat? with
  | some length => .ok (max 1 (roundEven length))
  | none => .error .infinite

/-- The size of an image after scaling. -/
def scaledSize (width height : Nat) (scale : Binary64) : Except ExtentFault (Nat × Nat) := do
  let scaledWidth ← scaledSide width scale
  let scaledHeight ← scaledSide height scale
  checkCoordinate scaledWidth
  checkCoordinate scaledHeight
  if scaledWidth > maxScaledSide ∨ scaledHeight > maxScaledSide then throw .outOfMemory
  return (scaledWidth.toNat, scaledHeight.toNat)

/-- The nearest whole place, a half going to the even one. -/
def wholePlace (x : Binary64) : Int := (x.toRat?.map roundEven).getD 0

/-- Whether an image of the given size can be put at a place. -/
def checkPlacement (left upper : Int) (size : Nat × Nat) : Except ExtentFault Unit := do
  checkCoordinate left
  checkCoordinate upper
  checkCoordinate (left + size.1)
  checkCoordinate (upper + size.2)

/-- The image scaled to `size` and put at a place of an empty image of the given mode and size. -/
def Image.moved (i : Image) (mode : ImageMode) (width height : Nat) (size : Nat × Nat)
    (left upper : Int) : Image :=
  (Image.ofFn mode width height fun _ _ => {}).paste (i.resize size.1 size.2) left upper

namespace RunState

/-- The canvas's image, which has to be there. -/
def requireCanvas (s : RunState) (kind : Kind) : Except VisitFailure Image :=
  match s.canvas with
  | some canvas => .ok canvas.image
  | none => refuseVisit (.needsCanvas kind)

/-- The innermost loop, which has to be there. -/
def requireFrame (s : RunState) (kind : Kind) : Except VisitFailure LoopFrame :=
  match s.frame? with
  | some frame => .ok frame
  | none => refuseVisit (.needsLoop kind)

/-- Put an image on the canvas that is none of the run's generated images. -/
def setCanvas (s : RunState) (image : Image) : RunState := { s with canvas := some { image } }

/-- Put a loaded image on the canvas: no generated image waits for a save any more. -/
def loadCanvas (s : RunState) (image : Image) : RunState :=
  { s.setCanvas image with fresh := false }

/-- Add an entry to the moodboard. -/
def addEntry (s : RunState) (image : Image) (source : String) : RunState :=
  { s with moodboard := s.moodboard ++ [{ image, source }] }

/-- Scale canvas and mask and move them. -/
def moveScale (s : RunState) (x y scale : Binary64) : Except VisitFailure RunState := do
  let canvas ← s.requireCanvas .moveScale
  if Binary64.zero.lt scale then
    let extent {α : Type} (answer : Except ExtentFault α) : Except VisitFailure α :=
      answer.mapError fun fault => .unforeseen (.extent fault)
    let size ← extent (scaledSize canvas.width canvas.height scale)
    let left := wholePlace x
    let upper := wholePlace y
    extent (checkPlacement left upper size)
    let moved (image : Image) (mode : ImageMode) : Image :=
      image.moved mode canvas.width canvas.height size left upper
    return { s.setCanvas (moved canvas.toRgba .rgba) with mask := s.mask.map (moved · .grey) }
  else refuseVisit (.scale scale)

/-- Shrink the canvas into bounds and set the generation size to the multiples of 64 below. -/
def adaptSize (s : RunState) (maxWidth maxHeight : Int) :
    Except VisitFailure (RunState × String) := do
  let canvas ← s.requireCanvas .adaptSize
  if maxWidth ≤ 0 ∨ maxHeight ≤ 0 then refuseVisit .maximumSize
  else
    let adapted ← match canvas.fitWithin? maxWidth.toNat maxHeight.toNat with
      | some adapted => pure adapted
      | none => .error (.unforeseen (.extent .noHeight))
    let width : Nat := max 64 (adapted.width / 64 * 64)
    let height : Nat := max 64 (adapted.height / 64 * 64)
    return ((s.setCanvas adapted).addSettings { width := some width, height := some height },
      s!"Canvas adapted to {adapted.width}x{adapted.height}, generation size {width}x{height}")

/-- Cut canvas and mask to what is visible. -/
def crop (s : RunState) : Except VisitFailure (RunState × String) := do
  let canvas ← s.requireCanvas .crop
  match canvas.visibleBox? with
  | none => refuseVisit .transparentCanvas
  | some box =>
    return ({ s.setCanvas (canvas.crop box) with
        mask := s.mask.map fun mask => (mask.resize canvas.width canvas.height).crop box },
      s!"Cropped to {box.right - box.left}x{box.lower - box.upper}")

/-- Set weights of moodboard entries: the entries, and the indices that none has. -/
def setWeights (moodboard : List MoodboardEntry) (weights : List (Nat × Binary64)) :
    List MoodboardEntry × List Nat :=
  (weights.foldl (fun entries (index, weight) => entries.modify index ({ · with weight }))
      moodboard,
    (weights.map (·.1)).filter (moodboard.length ≤ ·))

/-- What is said about weights that were set. -/
def weightsMessage (total : Nat) (missing : List Nat) : String :=
  s!"Weights set for {total - missing.length} item(s)" ++
    if missing.isEmpty then ""
    else "; no moodboard entry for index " ++ ", ".intercalate (missing.map toString)

/-! ## Flow control -/

/-- Enter the loop at `index`, or skip it when its body runs zero times. -/
def enterLoop (s : RunState) (w : Workflow) (index : Nat) (count start : Int) :
    RunState × String :=
  if count ≤ 0 then
    let next := match w.matchingEnd? index with
      | some last => last + 1
      | none => w.length
    ({ s with counter := next }, s!"Loop skipped (count {count})")
  else
    let frame : LoopFrame := { startIndex := index, start, count, current := start }
    ({ s with loops := frame :: s.loops }, s!"Loop iteration 1/{count} (index {start})")

/-- Go on to the innermost loop's next iteration, or leave it after the last one. -/
def closeLoop (s : RunState) : Except VisitFailure (RunState × String) :=
  match s.loops with
  | [] => refuseVisit .noOpenLoop
  | frame :: outer =>
    let s := { s with fresh := false }
    let next : LoopFrame := { frame with current := frame.current + 1 }
    if next.current < next.start + next.count then
      .ok ({ s with loops := next :: outer, counter := next.startIndex + 1 },
        s!"Loop iteration {next.offset + 1}/{next.count} (index {next.current})")
    else .ok ({ s with loops := outer }, "Loop completed")

/-! ## All of them -/

/-- The names of the settings that a config sets, in order, or a word for none. -/
def changedNames (settings : Settings) : String :=
  if settings.isEmpty then "nothing"
  else ", ".intercalate (settings.setFields.mergeSort fun a b => a ≤ b)

/-- The effect of the instruction at `index`; those that need the provider or write files have none
here. -/
def perform (w : Workflow) (workingDirectory : FilePath) (files : FileTree) (s : RunState)
    (index : Nat) (i : Instruction) : Except VisitFailure (RunState × String) :=
  match i with
  | .loop count start => .ok (s.enterLoop w index count start)
  | .loopEnd => s.closeLoop
  | .stop => .ok ({ s with counter := w.length }, "Workflow ended")
  | .prompt text => .ok ({ s with prompt := text }, "Prompt set")
  | .negativePrompt text => .ok ({ s with negativePrompt := text }, "Negative prompt set")
  | .config settings =>
    .ok (s.addSettings settings, s!"Config updated: {changedNames settings}")
  | .frames count =>
    if count < 1 then refuseVisit (.frameCount count)
    else .ok (s.addSettings { numFrames := some count }, s!"Frames: {count}")
  | .canvasClear => .ok ({ s with canvas := none }, "Canvas cleared")
  | .canvasLoad name => do
    let image ← loadImage workingDirectory files .canvas name
    return (s.loadCanvas image, s!"Canvas loaded: {name}")
  | .moveScale x y scale => do
    return (← s.moveScale x y scale, s!"Moved to ({x.text}, {y.text}) at scale {scale.text}")
  | .adaptSize maxWidth maxHeight => s.adaptSize maxWidth maxHeight
  | .crop => s.crop
  | .moodboardClear => .ok ({ s with moodboard := [] }, "Moodboard cleared")
  | .moodboardCanvas => do
    let canvas ← s.requireCanvas i.kind
    return (s.addEntry canvas "canvas",
      s!"Canvas added to moodboard ({s.moodboard.length + 1} items)")
  | .moodboardAdd name => do
    let image ← loadImage workingDirectory files .moodboard name
    return (s.addEntry image name, s!"Moodboard image added: {name}")
  | .moodboardRemove item =>
    if 0 ≤ item ∧ item < s.moodboard.length then
      .ok ({ s with moodboard := s.moodboard.eraseIdx item.toNat },
        s!"Removed moodboard item {item}")
    else refuseVisit (.moodboardIndex item s.moodboard.length)
  | .moodboardWeights weights =>
    let (moodboard, missing) := setWeights s.moodboard weights
    .ok ({ s with moodboard }, weightsMessage weights.length missing)
  | .loopAddMoodboard folder => do
    let frame ← s.requireFrame i.kind
    let (image, name) ← iterationImage workingDirectory files folder frame
    return (s.addEntry image s!"{folder}/{name}", s!"Moodboard image added: {name}")
  | .maskClear => .ok ({ s with mask := none }, "Mask cleared")
  | .maskLoad name => do
    let image ← loadImage workingDirectory files .mask name
    return ({ s with mask := some image.toGrey }, s!"Mask loaded: {name}")
  | .maskGet => do
    let canvas ← s.requireCanvas i.kind
    return ({ s with mask := some canvas.alphaChannel }, "Mask taken from canvas alpha")
  | .depthCanvas => do
    let canvas ← s.requireCanvas i.kind
    return ({ s with depth := some canvas }, "Canvas copied to depth layer")
  | .depthToCanvas =>
    match s.depth with
    | some depth => .ok (s.setCanvas depth, "Depth layer copied to canvas")
    | none => refuseVisit .noDepth
  | .poseJson data => .ok ({ s with pose := some data }, "Pose set from JSON")
  | .inpaintTools strength maskBlur maskBlurOutset restoreOriginal =>
    let options : Inpainting :=
      { maskBlur := maskBlur.map .whole, maskBlurOutset := maskBlurOutset.map .whole,
        restoreOriginal }
    .ok ({ s.addSettings { strength } with inpainting := s.inpainting.merge options },
      "Inpaint options updated")
  | .loopLoad folder => do
    let frame ← s.requireFrame i.kind
    let (image, name) ← iterationImage workingDirectory files folder frame
    return (s.loadCanvas image, s!"Loaded: {name}")
  | .note _ | .xlMagic .. | .generate | .canvasSave _ | .loopSave _ | .maskBackground
  | .maskForeground | .maskBody .. | .maskAsk _ | .depthExtract | .poseExtract | .removeBackground
  | .faceZoom | .askZoom _ => .ok (s, "")

end RunState

end ImageWorkflow
