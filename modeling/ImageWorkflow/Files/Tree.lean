import ImageWorkflow.Files.Path
import ImageWorkflow.Image.Basic
import ImageWorkflow.Text.Quoted

/-!
# Files

`FileTree` : directories and files by their normalized paths.  A file holds an image or a text;
there are no links.  Paths are looked up component by component (`FileTree.locate`), so `..` leads
out of existing directories only.  Operations report what is in the way (`FileFault`) and at which
path (`FileError`).
* `isFile`, `isDirectory`, `read` : questions;
* `makeDirectory`, `makeDirectories`, `write`, `remove` : changes;
* `entryNames`, `listing` : the entries of a directory, and everything below one.
-/

namespace ImageWorkflow

/-- What a file holds. -/
inductive Content where
  | image (image : Image)
  | text (text : String)
  deriving Inhabited

/-- A directory or a file. -/
inductive Node where
  | directory
  | file (content : Content)
  deriving Inhabited

/-- What is in the way of a file operation. -/
inductive FileFault where
  | notFound
  | exists
  | notADirectory
  | isADirectory
  | nameTooLong
  deriving DecidableEq, Repr

/-- The number and the words of a fault. -/
def FileFault.words : FileFault → String
  | .notFound => "[Errno 2] No such file or directory"
  | .exists => "[Errno 17] File exists"
  | .notADirectory => "[Errno 20] Not a directory"
  | .isADirectory => "[Errno 21] Is a directory"
  | .nameTooLong => "[Errno 36] File name too long"

/-- Why a file operation fails. -/
inductive FileError where
  | fault (fault : FileFault) (path : FilePath)
  /-- A path with a null character is no path. -/
  | nullInPath
  deriving DecidableEq, Repr

/-- The complaint about a null character in a path. -/
def nullInPathMessage : String := "embedded null byte"

/-- The wording of a file error. -/
def FileError.message : FileError → String
  | .fault what path => s!"{what.words}: {Text.quote path.text}"
  | .nullInPath => nullInPathMessage

/-- The most bytes that a component of a path may have. -/
def maxNameBytes : Nat := 255

/-- The most bytes that a path may have. -/
def maxPathBytes : Nat := 4095

/-- Directories and files by their normalized paths; the root is always there. -/
structure FileTree where
  nodes : List (FilePath × Node)
  deriving Inhabited

namespace FileTree

/-- The tree with nothing but the root. -/
def empty : FileTree := ⟨[]⟩

/-- The node at a normalized path. -/
def node? (t : FileTree) (p : FilePath) : Option Node :=
  if p.parts.isEmpty then some .directory
  else (t.nodes.find? fun entry => entry.1 == p).map (·.2)

/-- Put a node at a normalized path. -/
def setNode (t : FileTree) (p : FilePath) (n : Node) : FileTree :=
  if t.nodes.any fun entry => entry.1 == p then
    ⟨t.nodes.map fun entry => if entry.1 == p then (p, n) else entry⟩
  else ⟨t.nodes ++ [(p, n)]⟩

/-- Take away the node at a normalized path. -/
def dropNode (t : FileTree) (p : FilePath) : FileTree :=
  ⟨t.nodes.filter fun entry => entry.1 != p⟩

/-- Follow components from a directory that exists: the normalized path of what they lead to, whose
last component need not exist. -/
def follow (t : FileTree) (here : FilePath) : List String → Except FileFault FilePath
  | [] => .ok here
  | part :: rest =>
    match t.node? here with
    | none => .error .notFound
    | some (.file _) => .error .notADirectory
    | some .directory =>
      if part = ".." then follow t here.parent rest
      else if part.utf8ByteSize > maxNameBytes then .error .nameTooLong
      else follow t (here.child part) rest

/-- The normalized path of a path, whose last component need not exist. -/
def locate (t : FileTree) (p : FilePath) : Except FileError FilePath :=
  if p.parts.any FilePath.hasNull then .error .nullInPath
  else if p.text.utf8ByteSize > maxPathBytes then .error (.fault .nameTooLong p)
  else (t.follow ⟨[]⟩ p.parts).mapError (.fault · p)

/-- The node at a path. -/
def get (t : FileTree) (p : FilePath) : Except FileError Node := do
  let q ← t.locate p
  match t.node? q with
  | some n => return n
  | none => .error (.fault .notFound p)

/-- Whether `test` holds of the node at a path; nothing there counts as no. -/
def test (t : FileTree) (p : FilePath) (test : Node → Bool) : Except FileError Bool :=
  match t.get p with
  | .ok n => .ok (test n)
  | .error (.fault .nameTooLong q) => .error (.fault .nameTooLong q)
  | .error _ => .ok false

/-- Whether there is a file at a path. -/
def isFile (t : FileTree) (p : FilePath) : Except FileError Bool :=
  t.test p fun
    | .file _ => true
    | .directory => false

/-- Whether there is a directory at a path. -/
def isDirectory (t : FileTree) (p : FilePath) : Except FileError Bool :=
  t.test p fun
    | .file _ => false
    | .directory => true

/-- What the file at a path holds. -/
def read (t : FileTree) (p : FilePath) : Except FileError Content := do
  match ← t.get p with
  | .file content => return content
  | .directory => .error (.fault .isADirectory p)

/-- Make a directory where there is nothing. -/
def makeDirectory (t : FileTree) (p : FilePath) : Except FileError FileTree := do
  let q ← t.locate p
  match t.node? q with
  | some _ => .error (.fault .exists p)
  | none => return t.setNode q .directory

/-- Make a directory, or leave one that is there already. -/
def ensureDirectory (t : FileTree) (p : FilePath) : FileTree × Except FileError Unit :=
  match t.makeDirectory p with
  | .ok made => (made, .ok ())
  | .error .nullInPath => (t, .error .nullInPath)
  | .error error =>
    match t.isDirectory p with
    | .ok true => (t, .ok ())
    | .ok false => (t, .error error)
    | .error error => (t, .error error)

/-- Make a directory and those above it, as far as they are missing; `depth` bounds how many.  What
was made before an error stays. -/
def makeDirectoriesWithin (t : FileTree) (p : FilePath) :
    (depth : Nat) → FileTree × Except FileError Unit
  | 0 => t.ensureDirectory p
  | depth + 1 =>
    match t.makeDirectory p with
    | .error (.fault .notFound q) =>
      if p.parent = p then (t, .error (.fault .notFound q))
      else
        match t.makeDirectoriesWithin p.parent depth with
        | (above, .ok ()) => above.ensureDirectory p
        | (above, .error error) => (above, .error error)
    | _ => t.ensureDirectory p

/-- Make a directory and those above it, as far as they are missing. -/
def makeDirectories (t : FileTree) (p : FilePath) : FileTree × Except FileError Unit :=
  t.makeDirectoriesWithin p p.parts.length

/-- Write a file in an existing directory, over the file of that name if there is one. -/
def write (t : FileTree) (p : FilePath) (content : Content) : Except FileError FileTree := do
  let q ← t.locate p
  match t.node? q with
  | some .directory => .error (.fault .isADirectory p)
  | _ => return t.setNode q (.file content)

/-- Take away the file at a path. -/
def remove (t : FileTree) (p : FilePath) : FileTree :=
  match t.locate p with
  | .ok q => t.dropNode q
  | .error _ => t

/-- The names of a directory's entries, by a normalized path. -/
def entryNames (t : FileTree) (p : FilePath) : List String :=
  (t.nodes.filter fun entry => entry.1.parts ≠ [] ∧ entry.1.parent = p).map (·.1.name)

/-- Everything below a normalized path by relative names, in code point order. -/
def listing (t : FileTree) (p : FilePath) : List (String × Node) :=
  let below := t.nodes.filter fun entry => p.contains entry.1 && entry.1 != p
  let named := below.map fun entry =>
    ("/".intercalate (entry.1.parts.drop p.parts.length), entry.2)
  named.mergeSort fun a b => a.1 ≤ b.1

end FileTree

end ImageWorkflow
