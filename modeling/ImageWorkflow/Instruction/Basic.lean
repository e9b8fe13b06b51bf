import ImageWorkflow.Settings.Basic

/-!
# Instructions

`Instruction` : one step of a workflow; a closed set of forty variants.  `Kind` : the variants
without their parameters; `Instruction.kind` forgets the parameters.
* `isControl`, `isLoopScoped`, `isTrigger` : the groups that validation and execution tell apart;
* `loadedFile?` : the file that an instruction loads an image from;
* `same` : equality of instructions, numbers by value.
-/

namespace ImageWorkflow

/-- The variants of instructions. -/
inductive Kind where
  | note | loop | loopEnd | stop
  | prompt | negativePrompt | config | frames
  | canvasClear | canvasLoad | canvasSave | moveScale | adaptSize | crop
  | moodboardClear | moodboardCanvas | moodboardAdd | moodboardRemove | moodboardWeights
  | loopAddMoodboard
  | maskClear | maskLoad | maskGet | maskBackground | maskForeground | maskBody | maskAsk
  | depthExtract | depthCanvas | depthToCanvas | poseExtract | poseJson
  | removeBackground | faceZoom | askZoom | inpaintTools | xlMagic
  | loopLoad | loopSave | generate
  deriving DecidableEq, Repr

/-- One step of a workflow. -/
inductive Instruction where
  /-- A comment. -/
  | note (text : String)
  /-- The start of a body that runs `count` times, with indices from `start` on. -/
  | loop (count start : Int)
  | loopEnd
  /-- The end of the workflow. -/
  | stop
  | prompt (text : String)
  | negativePrompt (text : String)
  /-- Settings for the generations to come. -/
  | config (settings : Settings)
  | frames (count : Int)
  | canvasClear
  | canvasLoad (filename : String)
  /-- Save the canvas, generating first when a render is due. -/
  | canvasSave (filename : String)
  | moveScale (x y scale : Binary64)
  | adaptSize (maxWidth maxHeight : Int)
  | crop
  | moodboardClear
  | moodboardCanvas
  | moodboardAdd (filename : String)
  | moodboardRemove (index : Int)
  /-- Weights of moodboard entries, by increasing index. -/
  | moodboardWeights (weights : List (Nat × Binary64))
  /-- Add the current iteration's image of a folder to the moodboard. -/
  | loopAddMoodboard (folder : String)
  | maskClear
  | maskLoad (filename : String)
  /-- Take the mask from the canvas's transparency. -/
  | maskGet
  | maskBackground
  | maskForeground
  | maskBody (upper lower clothes : Option Bool) (neck : Option Int)
  | maskAsk (description : String)
  | depthExtract
  | depthCanvas
  | depthToCanvas
  | poseExtract
  | poseJson (data : Members)
  | removeBackground
  | faceZoom
  | askZoom (description : String)
  | inpaintTools (strength : Option Binary64) (maskBlur maskBlurOutset : Option Int)
      (restoreOriginal : Option Bool)
  | xlMagic (original target negative : Option Binary64)
  /-- Load the current iteration's image of a folder. -/
  | loopLoad (folder : String)
  /-- Save under the given stem and the iteration's index, generating first when a render is due. -/
  | loopSave (stem : String)
  | generate
  deriving Inhabited

namespace Instruction

/-- The variant. -/
def kind : Instruction → Kind
  | .note _ => .note
  | .loop .. => .loop
  | .loopEnd => .loopEnd
  | .stop => .stop
  | .prompt _ => .prompt
  | .negativePrompt _ => .negativePrompt
  | .config _ => .config
  | .frames _ => .frames
  | .canvasClear => .canvasClear
  | .canvasLoad _ => .canvasLoad
  | .canvasSave _ => .canvasSave
  | .moveScale .. => .moveScale
  | .adaptSize .. => .adaptSize
  | .crop => .crop
  | .moodboardClear => .moodboardClear
  | .moodboardCanvas => .moodboardCanvas
  | .moodboardAdd _ => .moodboardAdd
  | .moodboardRemove _ => .moodboardRemove
  | .moodboardWeights _ => .moodboardWeights
  | .loopAddMoodboard _ => .loopAddMoodboard
  | .maskClear => .maskClear
  | .maskLoad _ => .maskLoad
  | .maskGet => .maskGet
  | .maskBackground => .maskBackground
  | .maskForeground => .maskForeground
  | .maskBody .. => .maskBody
  | .maskAsk _ => .maskAsk
  | .depthExtract => .depthExtract
  | .depthCanvas => .depthCanvas
  | .depthToCanvas => .depthToCanvas
  | .poseExtract => .poseExtract
  | .poseJson _ => .poseJson
  | .removeBackground => .removeBackground
  | .faceZoom => .faceZoom
  | .askZoom _ => .askZoom
  | .inpaintTools .. => .inpaintTools
  | .xlMagic .. => .xlMagic
  | .loopLoad _ => .loopLoad
  | .loopSave _ => .loopSave
  | .generate => .generate

/-- Comments and the instructions that steer the run. -/
def isControl : Instruction → Bool
  | .note _ | .loop .. | .loopEnd | .stop => true
  | _ => false

/-- The instructions that make sense inside a loop only. -/
def isLoopScoped : Instruction → Bool
  | .loopLoad _ | .loopSave _ | .loopAddMoodboard _ => true
  | _ => false

/-- The instructions that may ask the provider for images. -/
def isTrigger : Instruction → Bool
  | .generate | .canvasSave _ | .loopSave _ => true
  | _ => false

/-- The file that an instruction loads an image from. -/
def loadedFile? : Instruction → Option String
  | .canvasLoad filename | .moodboardAdd filename | .maskLoad filename => some filename
  | _ => none

/-- Equality of instructions; numbers compare by value. -/
def same : Instruction → Instruction → Bool
  | .note a, .note b | .prompt a, .prompt b | .negativePrompt a, .negativePrompt b
  | .canvasLoad a, .canvasLoad b | .canvasSave a, .canvasSave b | .moodboardAdd a, .moodboardAdd b
  | .loopAddMoodboard a, .loopAddMoodboard b | .maskLoad a, .maskLoad b | .maskAsk a, .maskAsk b
  | .askZoom a, .askZoom b | .loopLoad a, .loopLoad b | .loopSave a, .loopSave b => a == b
  | .loop count start, .loop count' start' => count == count' && start == start'
  | .config s, .config t => s.same t
  | .frames a, .frames b | .moodboardRemove a, .moodboardRemove b => a == b
  | .moveScale x y scale, .moveScale x' y' scale' =>
    x.sameValue x' && y.sameValue y' && scale.sameValue scale'
  | .adaptSize w h, .adaptSize w' h' => w == w' && h == h'
  | .moodboardWeights ws, .moodboardWeights ws' =>
    Settings.sameList (fun a b => a.1 == b.1 && a.2.sameValue b.2) ws ws'
  | .maskBody u l c n, .maskBody u' l' c' n' => u == u' && l == l' && c == c' && n == n'
  | .poseJson data, .poseJson data' => (Json.object data).same (.object data')
  | .inpaintTools s b o r, .inpaintTools s' b' o' r' =>
    Settings.sameOption Binary64.sameValue s s' && b == b' && o == o' && r == r'
  | .xlMagic o t n, .xlMagic o' t' n' =>
    Settings.sameOption Binary64.sameValue o o' && Settings.sameOption Binary64.sameValue t t' &&
      Settings.sameOption Binary64.sameValue n n'
  | a, b => a.kind == b.kind

end Instruction

end ImageWorkflow
