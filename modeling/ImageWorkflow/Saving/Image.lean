import ImageWorkflow.Files.Tree
import ImageWorkflow.Image.Png

/-!
# Writing images

`FileTree.writeImage` : write an image file.  Printing inks and images without pixels cannot be
written: then a new file is not left behind, but a file that was there has lost what it held.
-/

namespace ImageWorkflow

/-- Why an image is not written. -/
inductive WriteError where
  | file (error : FileError)
  /-- The format does not have such images. -/
  | format (fault : FormatFault)
  deriving DecidableEq, Repr

/-- The wording of a write error. -/
def WriteError.message : WriteError → String
  | .file error => error.message
  | .format fault => fault.message

/-- Write an image file in an existing directory. -/
def FileTree.writeImage (t : FileTree) (p : FilePath) (image : Image) :
    FileTree × Except WriteError Unit :=
  match image.formatFault? with
  | none =>
    match t.write p (.image image) with
    | .error error => (t, .error (.file error))
    | .ok written => (written, .ok ())
  | some fault =>
    match t.write p (.text "") with
    | .error error => (t, .error (.file error))
    | .ok written =>
      ((match t.get p with
        | .ok _ => written
        | .error _ => t), .error (.format fault))

end ImageWorkflow
