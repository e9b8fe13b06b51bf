import ImageWorkflow.Files.Tree
import ImageWorkflow.Json.Printer

/-!
# The log of requests

A file with one block for each request: when, where to, and the body with sorted members.  Pictures
in the body are replaced by a word about them (`RequestLog.withoutPictures`).
* `RequestLog.start` : start a log, or go on with one that is there;
* `RequestLog.append` : one more block; when the file cannot be written, the block is lost;
* `RequestLog.clear` : start afresh.
-/

namespace ImageWorkflow

/-- A file with a block for each request. -/
structure RequestLog where
  path : FilePath
  deriving DecidableEq, Repr

/-- Why a block cannot be written down. -/
inductive LogError where
  /-- The first of the pictures is nothing that has a length. -/
  | noLength (value : Json)

/-- The wording of a log error. -/
def LogError.message : LogError → String
  | .noLength value => s!"object of type '{value.kindName}' has no len()"

/-- The number of characters, items or members of a value. -/
def Json.length? : Json → Option Nat
  | .str s => some s.length
  | .array items => some items.length
  | .object members => some members.length
  | _ => none

namespace RequestLog

/-- The first line of a log. -/
def header : String := "StoryFlow Request Log\n"

/-- Start a log, or go on with what is there. -/
def start (path : FilePath) (files : FileTree) : FileTree × Except FileError RequestLog :=
  match files.makeDirectories path.parent with
  | (files, .error error) => (files, .error error)
  | (files, .ok ()) =>
    match files.get path with
    | .ok _ => (files, .ok ⟨path⟩)
    | .error (.fault .notFound _) | .error (.fault .notADirectory _) =>
      match files.write path (.text header) with
      | .ok files => (files, .ok ⟨path⟩)
      | .error error => (files, .error error)
    | .error error => (files, .error error)

/-- A body with words in place of its pictures. -/
def withoutPictures (body : Members) : Except LogError Members := do
  let body ← match body.get? "init_images" with
    | some (.array images) =>
      let size ← match images with
        | [] => pure 0
        | first :: _ => match first.length? with
          | some size => pure size
          | none => .error (.noLength first)
      pure (body.insert "init_images" (.array [.str s!"<base64 png, {size} chars>"]))
    | _ => pure body
  match body.get? "mask" with
  | some (.str _) => return body.insert "mask" (.str "<base64 mask>")
  | _ => return body

/-- The block of a request. -/
def block (endpoint : String) (body : Members) (now : String) : String :=
  s!"\n--- [{now}] HTTP -> {endpoint} ---\n" ++ (Json.object body).prettySorted ++ "\n"

/-- The text of the file so far, to go on after it. -/
def written (files : FileTree) (path : FilePath) : String :=
  match files.read path with
  | .ok (.text text) => text
  | _ => ""

/-- One more block. -/
def append (log : RequestLog) (files : FileTree) (endpoint : String) (body : Members)
    (now : String) : Except LogError FileTree := do
  let text := block endpoint (← withoutPictures body) now
  match files.write log.path (.text (written files log.path ++ text)) with
  | .ok files => return files
  | .error _ => return files

/-- Start afresh. -/
def clear (log : RequestLog) (files : FileTree) : Except FileError FileTree :=
  files.write log.path (.text header)

end RequestLog

end ImageWorkflow
