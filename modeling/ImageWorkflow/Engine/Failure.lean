import ImageWorkflow.Engine.State
import ImageWorkflow.Instruction.Catalogue
import ImageWorkflow.Provider.Basic
import ImageWorkflow.Saving.Image
import ImageWorkflow.Saving.Plugin

/-!
# Why a visit fails

`InstructionFault` : what an instruction can find wrong with its parameters, the state or the files.
`VisitFailure` : an `InstructionFault`, a failure that the provider reports, an unforeseen error, or
an interruption.  `VisitFailure.isFatal` : whether the run ends with it.
-/

namespace ImageWorkflow

/-- What a file that an instruction loads is for. -/
inductive FileRole where
  | canvas
  | moodboard
  | mask
  deriving DecidableEq, Repr

/-- The word for the role in messages. -/
def FileRole.label : FileRole → String
  | .canvas => "File"
  | .moodboard => "Moodboard file"
  | .mask => "Mask file"

/-- What an instruction can find wrong. -/
inductive InstructionFault where
  | emptyPath
  /-- The path leads out of the working directory. -/
  | escapingPath (name : String)
  | fileNotFound (role : FileRole) (name : String)
  /-- The file at `path` is no image; `label` is its name in the message. -/
  | unreadableImage (label : String) (path : FilePath)
  | unwritableImage (name : String) (error : WriteError)
  | folderNotFound (folder : String)
  /-- The folder has only `count` images, too few for iteration `offset`. -/
  | folderExhausted (folder : String) (offset : Int) (count : Nat)
  | needsLoop (kind : Kind)
  | needsCanvas (kind : Kind)
  | nothingToGenerate
  | noImageGenerated
  | nothingToSave
  | noOpenLoop
  | frameCount (count : Int)
  | scale (x : Binary64)
  | maximumSize
  | transparentCanvas
  | moodboardIndex (index : Int) (size : Nat)
  | noDepth
  | noToolImage (tool : Kind)
  deriving DecidableEq

/-- The complaint about a file that is no image. -/
def notAnImageMessage (path : FilePath) : String :=
  s!"cannot identify image file {Text.quote path.text}"

/-- The wording of a fault. -/
def InstructionFault.message : InstructionFault → String
  | .emptyPath => "Empty path"
  | .escapingPath name => s!"Path escapes the working directory: {name}"
  | .fileNotFound role name => s!"{role.label} not found: {name}"
  | .unreadableImage label path => s!"Failed to load image {label}: {notAnImageMessage path}"
  | .unwritableImage name error => s!"Failed to save {name}: {error.message}"
  | .folderNotFound folder => s!"Folder not found: {folder}"
  | .folderExhausted folder offset count =>
    s!"Loop index {offset} exceeds file count {count} in {folder}"
  | .needsLoop kind => s!"{kind.key} must be inside a loop"
  | .needsCanvas kind => s!"{kind.key} requires a canvas"
  | .nothingToGenerate => "Nothing to generate: no prompt, canvas or moodboard"
  | .noImageGenerated => "No image generated"
  | .nothingToSave => "No prompt or canvas to save"
  | .noOpenLoop => "Loop end without matching loop start"
  | .frameCount count => s!"Frame count must be at least 1, got {count}"
  | .scale x => s!"Scale must be positive, got {x.text}"
  | .maximumSize => "Maximum size must be positive"
  | .transparentCanvas => "Canvas is fully transparent"
  | .moodboardIndex index size => s!"Moodboard index {index} out of range ({size} items)"
  | .noDepth => "No depth layer to copy"
  | .noToolImage tool => s!"Provider returned no image for {tool.key}"

/-- Why a place or a length is none that images have. -/
inductive ExtentFault where
  | infinite
  /-- There is no height to compare the width with. -/
  | noHeight
  /-- An image is to have no pixels. -/
  | noPixels
  /-- Past the machine's widest integers. -/
  | pastWord
  /-- Past the coordinates of images. -/
  | tooLarge
  | tooSmall
  /-- An image of that extent does not fit into memory. -/
  | outOfMemory
  deriving DecidableEq, Repr

/-- The wording of a fault of extent. -/
def ExtentFault.message : ExtentFault → String
  | .infinite => "cannot convert float infinity to integer"
  | .noHeight => "division by zero"
  | .noPixels => "height and width must be > 0"
  | .pastWord => "Python int too large to convert to C long"
  | .tooLarge => "signed integer is greater than maximum"
  | .tooSmall => "signed integer is less than minimum"
  | .outOfMemory => ""

/-- An error that no instruction foresees. -/
inductive UnforeseenError where
  | file (error : FileError)
  | plugin (error : PluginError)
  | extent (fault : ExtentFault)
  | other (error : OtherError)

/-- The wording of an unforeseen error. -/
def UnforeseenError.message : UnforeseenError → String
  | .file error => error.message
  | .plugin error => error.message
  | .extent fault => fault.message
  | .other error => error.message

/-- Why a visit does not succeed. -/
inductive VisitFailure where
  | fault (what : InstructionFault)
  | reported (error : ProviderError)
  | unforeseen (error : UnforeseenError)
  /-- The provider's call was broken off. -/
  | interrupted (source : Interruption)

namespace VisitFailure

/-- The failure of a visit whose call to the provider failed. -/
def ofCall : CallFailure → VisitFailure
  | .reported error => .reported error
  | .other error => .unforeseen (.other error)
  | .interrupted source => .interrupted source

/-- What is said about an instruction, or a whole run, that was broken off. -/
def cancelledMessage : String := "Execution cancelled"

/-- The wording of a failure. -/
def message : VisitFailure → String
  | .fault what => what.message
  | .reported error => error.message
  | .unforeseen error => s!"Unexpected error: {error.message}"
  | .interrupted _ => cancelledMessage

/-- Whether the run ends with the failure: the backend is out of reach, or the call was broken
off. -/
def isFatal : VisitFailure → Bool
  | .reported error => error.isFatal
  | .interrupted _ => true
  | _ => false

end VisitFailure

end ImageWorkflow
