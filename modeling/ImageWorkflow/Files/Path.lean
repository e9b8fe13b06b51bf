import ImageWorkflow.Text.Extension

/-!
# Paths

`FilePath` : an absolute path by its components, without empty ones and `.`; `..` stays where it was
written until `normalize` takes it away together with the component before it.
* `FilePath.parse`, `FilePath.text` : from and to text;
* `FilePath.join` : a name seen from a directory; an absolute name stands for itself;
* `FilePath.resolve` : `join` and `normalize`;
* `FilePath.contains` : a directory and everything below it;
* `FilePath.plainSpelling` : how a name, absolute or not, is spelt.
-/

namespace ImageWorkflow

/-- An absolute path by its components. -/
structure FilePath where
  parts : List String
  deriving DecidableEq, Repr, Inhabited

namespace FilePath

/-- The components of a name. -/
def componentsOf (name : String) : List String :=
  ((name.toList.splitOn '/').map String.ofList).filter fun part => part != "" && part != "."

/-- Whether a name is absolute. -/
def isAbsolute (name : String) : Bool := name.toList.head? == some '/'

/-- The path that an absolute name writes. -/
def parse (name : String) : FilePath := ⟨componentsOf name⟩

/-- The text of a path. -/
def text (p : FilePath) : String := "/" ++ "/".intercalate p.parts

/-- A name seen from a directory. -/
def join (p : FilePath) (name : String) : FilePath :=
  if isAbsolute name then parse name else ⟨p.parts ++ componentsOf name⟩

/-- A name without what says nothing: slashes that are doubled or at the end, and single dots.  Two
slashes at the front stay two. -/
def plainSpelling (name : String) : String :=
  let slashes := (name.toList.takeWhile (· == '/')).length
  let root := if slashes = 2 then "//" else if slashes = 0 then "" else "/"
  let spelling := root ++ "/".intercalate (componentsOf name)
  if spelling = "" then "." else spelling

/-- One component further down, or up for `..`. -/
def descend (parts : List String) (part : String) : List String :=
  if part = ".." then parts.dropLast else parts ++ [part]

/-- The path without `..`. -/
def normalize (p : FilePath) : FilePath := ⟨p.parts.foldl descend []⟩

/-- The path that a name stands for, seen from a directory. -/
def resolve (p : FilePath) (name : String) : FilePath := (p.join name).normalize

/-- The directory that holds the path. -/
def parent (p : FilePath) : FilePath := ⟨p.parts.dropLast⟩

/-- The last component. -/
def name (p : FilePath) : String := p.parts.getLastD ""

/-- An entry of a directory. -/
def child (p : FilePath) (name : String) : FilePath := ⟨p.parts ++ [name]⟩

/-- Whether `q` is `p` or lies below it. -/
def contains (p q : FilePath) : Bool := p.parts.isPrefixOf q.parts

/-- Whether a name has a null character in a component. -/
def hasNull (name : String) : Bool := name.toList.contains '\x00'

end FilePath

end ImageWorkflow
