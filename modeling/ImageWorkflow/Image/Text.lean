import ImageWorkflow.Image.PngReader
import ImageWorkflow.Text.Base64

/-!
# Images as text

An image travels as the Base64 text of its PNG data, perhaps behind `data:image/…;base64,`.
* `Image.toText` : the text of an image, or why it has none;
* `Image.ofText` : the image of a text, or why it is none.
-/

namespace ImageWorkflow

/-- Why a text is no image. -/
inductive ImageTextFault where
  /-- The text is not Base64. -/
  | digits (fault : Base64.Fault)
  /-- The bytes are no image. -/
  | data (fault : PngFault)
  deriving DecidableEq, Repr

namespace ImageTextFault

/-- The wording of what is wrong in itself. -/
def detail : ImageTextFault → String
  | .digits fault => fault.message
  | .data fault => fault.message

/-- The wording of a fault. -/
def message (fault : ImageTextFault) : String := "Could not decode image: " ++ fault.detail

end ImageTextFault

namespace Image

/-- The start of a text that says it holds an image. -/
def labelStart : List Char := "data:image/".toList

/-- What ends the label at the start of a text. -/
def labelEnd : List Char := ";base64,".toList

/-- A text without the label at its start; between the label's start and end there is a word
without a semicolon. -/
def withoutLabel (text : List Char) : List Char :=
  let word := (text.drop labelStart.length).takeWhile (· ≠ ';')
  let rest := (text.drop labelStart.length).dropWhile (· ≠ ';')
  if labelStart.isPrefixOf text && !word.isEmpty && labelEnd.isPrefixOf rest then
    rest.drop labelEnd.length
  else text

/-- The text of an image, or why it has none. -/
def toText (i : Image) : Except FormatFault String :=
  i.toPng.map fun bytes => String.ofList (Base64.encode bytes)

/-- The image of a text, or why it is none. -/
def ofText (text : String) : Except ImageTextFault Image :=
  match Base64.decode (withoutLabel text.toList) with
  | .error fault => .error (.digits fault)
  | .ok bytes => (ofPng bytes).mapError .data

end Image

end ImageWorkflow
