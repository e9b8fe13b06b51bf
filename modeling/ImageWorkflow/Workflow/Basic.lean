import ImageWorkflow.Instruction.Summary
import ImageWorkflow.Workflow.Loops
import ImageWorkflow.Json.Printer

/-!
# Workflows as lists and as text

A workflow is a list of instructions; on file it is a JSON array of their wire objects.
* `Workflow.ofWire`, `Workflow.parse` : read an array or a text; the first instruction that is
  refused is reported with its index;
* `Workflow.toWire`, `Workflow.print`, `Workflow.printCompact` : write one, indented with sorted
  keys, or without white space;
* `Workflow.counts` : how often each key occurs, in order of first occurrence.
-/

namespace ImageWorkflow

/-- Why a text or an array is no workflow. -/
inductive LoadError where
  /-- The text is not JSON. -/
  | notJson (text : String) (fault : JsonFault) (position : Nat)
  | notArray
  | item (index : Nat) (error : DecodeError)
  /-- A number that cannot be read, in the text or in an instruction. -/
  | failure (cause : DecodeFailure)

/-- The wording of a load error. -/
def LoadError.message : LoadError → String
  | .notJson text fault position =>
    "Invalid JSON: " ++ (JsonError.malformed fault position).message text
  | .notArray => "Workflow JSON must be an array of instructions"
  | .item index error => s!"Instruction {index}: {error.message}"
  | .failure cause => cause.message

namespace Workflow

/-- The instructions of the items from index `index` on. -/
def ofItems (index : Nat) : List Json → Except LoadError Workflow
  | [] => .ok []
  | item :: rest =>
    match Instruction.ofWire item with
    | .ok i => (i :: ·) <$> ofItems (index + 1) rest
    | .error (.refused error) => .error (.item index error)
    | .error cause => .error (.failure cause)

/-- The workflow that the items of an array write. -/
def ofWire (items : List Json) : Except LoadError Workflow := ofItems 0 items

/-- The items of a workflow's array. -/
def toWire (w : Workflow) : List Json := w.map Instruction.toWire

/-- The workflow that a text writes. -/
def parse (text : String) : Except LoadError Workflow :=
  match Json.parse text with
  | .error (.malformed fault position) => .error (.notJson text fault position)
  | .error (.tooManyDigits count) => .error (.failure (.tooManyDigits count))
  | .ok (.array items) => ofWire items
  | .ok _ => .error .notArray

/-- The indented text, members in key order. -/
def print (w : Workflow) : String := (Json.array w.toWire).prettySorted

/-- The text without white space. -/
def printCompact (w : Workflow) : String := (Json.array w.toWire).compact

/-- Count one more `key`. -/
def countKey (counts : List (String × Nat)) (key : String) : List (String × Nat) :=
  match counts with
  | [] => [(key, 1)]
  | (k, n) :: rest => if k = key then (k, n + 1) :: rest else (k, n) :: countKey rest key

/-- How often each key occurs, in order of first occurrence. -/
def counts (w : Workflow) : List (String × Nat) :=
  w.foldl (fun acc i => countKey acc i.kind.key) []

/-- Equality of workflows, instruction by instruction. -/
def same (v w : Workflow) : Bool := Settings.sameList Instruction.same v w

end Workflow

end ImageWorkflow
