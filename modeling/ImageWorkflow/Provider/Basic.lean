import ImageWorkflow.Image.Basic
import ImageWorkflow.Instruction.Basic
import ImageWorkflow.Provider.Error
import ImageWorkflow.Provider.Progress
import ImageWorkflow.Settings.Request

/-!
# Generation providers

`Provider σ` : a backend with memory `σ` that checks its connection, renders images and runs image
tools.  A call reports progress on its way and then gives a result, or ends by a `CallFailure`: a
failure that the provider reports, another error, or an interruption.  The run that waits for the
check of the connection may be broken off as well.
-/

namespace ImageWorkflow

/-- A request for images. -/
structure GenerateCall where
  prompt : String
  parameters : Generation
  source : Option Image
  mask : Option Image
  moodboard : List (Image × Binary64)

/-- A request for an image tool. -/
structure ToolCall where
  tool : Kind
  image : Image
  parameters : Members

/-- What an image tool gives. -/
structure ToolResult where
  image : Option Image
  data : Members

/-- What brings a run to an end before its time. -/
inductive Interruption where
  /-- Cancellation was requested of the engine. -/
  | requested
  /-- Whoever awaits the run gave up. -/
  | outside
  deriving DecidableEq, Repr

/-- The kinds of errors outside the provider's own. -/
inductive ErrorKind where
  | runtime
  | value
  | kind
  | overflow
  | system
  | decoding
  | tooManyRedirects
  /-- A text has characters that cannot be sent. -/
  | encoding
  /-- An address is none. -/
  | address
  /-- An image breaks the rules of its format. -/
  | format
  /-- An image is too large to be unpacked. -/
  | size
  deriving DecidableEq, Repr

/-- An error outside the provider's own. -/
structure OtherError where
  kind : ErrorKind
  message : String
  deriving DecidableEq, Repr

/-- The error about a number that the text sent to another computer does not have. -/
def OtherError.unsendable : OtherError :=
  ⟨.value, "Out of range float values are not JSON compliant"⟩

/-- Why an engine refuses a run while another one is going on. -/
def OtherError.alreadyRunning : OtherError := ⟨.runtime, "Engine is already running a workflow"⟩

/-- Why a call gives no result. -/
inductive CallFailure where
  | reported (error : ProviderError)
  | other (error : OtherError)
  | interrupted (source : Interruption)
  deriving DecidableEq, Repr

/-- The course of a call: progress, then the result. -/
structure Reply (α : Type) where
  progress : List Progress := []
  result : Except CallFailure α

/-- A model or adapter that a backend offers. -/
structure CatalogueEntry where
  filename : Json
  name : Json := .str ""

/-- The name shown for an entry. -/
def CatalogueEntry.displayName (e : CatalogueEntry) : Json :=
  if e.name.isTruthy then e.name else e.filename

/-- A generation backend with memory `σ`. -/
structure Provider (σ : Type) where
  name : String
  /-- The description's object. -/
  info : Members
  /-- Whether the backend is there; asking may fail in a way that no provider reports. -/
  checkConnection : σ → Except OtherError Bool × σ
  generate : σ → GenerateCall → Reply (List Image) × σ
  applyTool : σ → ToolCall → Reply ToolResult × σ
  models : σ → Except CallFailure (List CatalogueEntry) × σ
  loras : σ → Except CallFailure (List CatalogueEntry) × σ
  /-- What breaks off the run that waits for a check of the connection, if anything does. -/
  checkInterruption : σ → Option Interruption := fun _ => none

end ImageWorkflow
