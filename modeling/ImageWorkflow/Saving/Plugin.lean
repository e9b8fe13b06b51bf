import ImageWorkflow.Files.Tree
import ImageWorkflow.Json.Display
import ImageWorkflow.Json.Printer

/-!
# Plugins around a save

`SavePlugin` : what happens around the writing of an image.  A plugin may redirect the path before
(`SavePlugin.beforeSave`) and write further files after (`SavePlugin.afterSave`).  `saveMetadata`
puts two files beside the image: its prompt as text and its parameters as JSON.
-/

namespace ImageWorkflow

/-- The plugins there are. -/
inductive PluginKind where
  /-- Nothing before, nothing after. -/
  | passThrough
  /-- Prompt and parameters beside the image. -/
  | saveMetadata
  deriving DecidableEq, Repr

namespace PluginKind

/-- The name of a plugin. -/
def name : PluginKind → String
  | .passThrough => "Base"
  | .saveMetadata => "SaveMetadata"

/-- What a plugin does. -/
def description : PluginKind → String
  | .passThrough => "Base plugin"
  | .saveMetadata => "Write prompt and generation parameters next to saved images"

/-- The version of a plugin. -/
def version : PluginKind → String
  | .passThrough => "0.1.0"
  | .saveMetadata => "0.3.0"

end PluginKind

/-- Why a plugin stops. -/
inductive PluginError where
  | file (error : FileError)
  /-- The folder is not given as a text. -/
  | folderNotText (value : Json)
  /-- The prompt is not a text. -/
  | promptNotText (value : Json)
  /-- The name of a file beside the image is no single component. -/
  | invalidName (name : String)

/-- The wording of a plugin's error. -/
def PluginError.message : PluginError → String
  | .file error => error.message
  | .folderNotText value =>
    s!"unsupported operand type(s) for /: 'PosixPath' and '{value.kindName}'"
  | .promptNotText value => s!"data must be str, not {value.kindName}"
  | .invalidName name => s!"Invalid name {Text.quote name}"

/-- A plugin and its options. -/
structure SavePlugin where
  kind : PluginKind
  options : Members := []

namespace SavePlugin

/-- An option, or what stands for it when it is not given. -/
def option (p : SavePlugin) (name : String) (fallback : Json) : Json :=
  (Members.get? p.options name).getD fallback

/-- The option that switches the plugin on. -/
def enabledOption (p : SavePlugin) : Json := p.option "enabled" (.bool true)

/-- Whether the plugin takes part in saves. -/
def isEnabled (p : SavePlugin) : Bool := p.enabledOption.isTruthy

/-- Where an image goes that is to be saved at `path`; the directory is made. -/
def beforeSave (p : SavePlugin) (files : FileTree) (path : FilePath) :
    FileTree × Except PluginError FilePath :=
  match p.kind with
  | .passThrough => (files, .ok path)
  | .saveMetadata =>
    let folder := p.option "folder_name" .null
    if !(p.isEnabled && folder.isTruthy) then (files, .ok path)
    else
      match folder with
      | .str folder =>
        let directory := path.parent.join folder
        match files.makeDirectories directory with
        | (files, .ok ()) =>
          -- the root has no name of its own
          (files, .ok ((path.parts.getLast?.map directory.child).getD directory))
        | (files, .error error) => (files, .error (.file error))
      | folder => (files, .error (.folderNotText folder))

/-- The stem of the files beside an image. -/
def sidecarStem (p : SavePlugin) (path : FilePath) : String :=
  let front := p.option "filename_prefix" (.str "")
  let stem := Text.stem path.name
  if front.isTruthy then front.display ++ "_" ++ stem else stem

/-- The path of a file beside an image; its name has to be one component. -/
def sibling (path : FilePath) (name : String) : Except PluginError FilePath :=
  match FilePath.componentsOf name with
  | [part] =>
    if FilePath.isAbsolute name then .error (.invalidName name) else .ok (path.parent.child part)
  | _ => .error (.invalidName name)

/-- The facts about a saved image, and after them its parameters as far as they have other names. -/
def metadata (image : Image) (path : FilePath) (parameters : Members) (now : String) : Members :=
  let given (name : String) := (Members.get? parameters name).getD (.str "")
  let facts : Members := [("prompt", given "prompt"), ("negative_prompt", given "negative_prompt"),
    ("width", .int image.width), ("height", .int image.height), ("saved_at", .str now),
    ("image_path", .str path.text)]
  facts ++ parameters.filter fun member => !facts.keys.contains member.1

/-- A file beside an image: where it goes and what it holds. -/
structure Sidecar where
  path : FilePath
  text : String

/-- The prompt beside an image. -/
def promptFile (p : SavePlugin) (path : FilePath) (parameters : Members) :
    Except PluginError Sidecar := do
  let target ← sibling path (p.sidecarStem path ++ ".txt")
  match (Members.get? parameters "prompt").getD (.str "") with
  | .str prompt => return ⟨target, prompt⟩
  | value => .error (.promptNotText value)

/-- The parameters beside an image. -/
def parameterFile (p : SavePlugin) (image : Image) (path : FilePath) (parameters : Members)
    (now : String) : Except PluginError Sidecar := do
  let target ← sibling path (p.sidecarStem path ++ ".json")
  return ⟨target, (Json.object (metadata image path parameters now)).pretty⟩

/-- Write files one after the other, up to the first with something in its way, which is passed
over; a path that is none is an error. -/
def writeSidecars (files : FileTree) :
    List (Except PluginError Sidecar) → FileTree × Except PluginError Unit
  | [] => (files, .ok ())
  | .error error :: _ => (files, .error error)
  | .ok sidecar :: rest =>
    match files.write sidecar.path (.text sidecar.text) with
    | .ok files => writeSidecars files rest
    | .error .nullInPath => (files, .error (.file .nullInPath))
    | .error (.fault ..) => (files, .ok ())

/-- Write the files beside a saved image. -/
def afterSave (p : SavePlugin) (files : FileTree) (image : Image) (path : FilePath)
    (parameters : Members) (now : String) : FileTree × Except PluginError Unit :=
  match p.kind with
  | .passThrough => (files, .ok ())
  | .saveMetadata =>
    if !p.isEnabled then (files, .ok ())
    else
      writeSidecars files
        ((if (p.option "write_prompt" (.bool true)).isTruthy then [p.promptFile path parameters]
          else []) ++ [p.parameterFile image path parameters now])

end SavePlugin

end ImageWorkflow
