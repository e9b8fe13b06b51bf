import ImageWorkflow.Files.Tree
import ImageWorkflow.Text.Lines
import ImageWorkflow.Workflow.Basic

/-!
# Workflows in files

`FileTree.writeWorkflow` : write a workflow's indented text, with the directories above the file.
`FileTree.readWorkflow` : read a workflow, whatever the ends of its lines.
-/

namespace ImageWorkflow

/-- Why a file gives no workflow. -/
inductive WorkflowFileError where
  | file (error : FileError)
  /-- The file holds a picture, which is no text. -/
  | notText
  | load (error : LoadError)

/-- The complaint about the first byte of a picture. -/
def notTextMessage : String :=
  "'utf-8' codec can't decode byte 0x89 in position 0: invalid start byte"

/-- The wording of a file's error. -/
def WorkflowFileError.message : WorkflowFileError → String
  | .file error => error.message
  | .notText => notTextMessage
  | .load error => error.message

/-- Write a workflow's text. -/
def FileTree.writeWorkflow (files : FileTree) (path : FilePath) (w : Workflow) :
    FileTree × Except FileError Unit :=
  match files.makeDirectories path.parent with
  | (files, .error error) => (files, .error error)
  | (files, .ok ()) =>
    match files.write path (.text w.print) with
    | .ok files => (files, .ok ())
    | .error error => (files, .error error)

/-- Read a workflow. -/
def FileTree.readWorkflow (files : FileTree) (path : FilePath) :
    Except WorkflowFileError Workflow :=
  match files.read path with
  | .error error => .error (.file error)
  | .ok (.image _) => .error .notText
  | .ok (.text text) => (Workflow.parse (Text.unixLines text)).mapError .load

end ImageWorkflow
