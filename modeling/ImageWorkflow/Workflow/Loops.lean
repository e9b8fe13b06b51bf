import ImageWorkflow.Instruction.Basic

/-!
# Loop structure

* `Workflow.openLoops w n` : the loops that are open before index `n`, innermost first, by the
  brackets of `loop` and `loopEnd` alone; a `loopEnd` without an open loop closes none;
* `Workflow.matchingEnd? w n` : the `loopEnd` that closes the loop at index `n`;
* `Workflow.visitBound w n` : how often the instruction at index `n` can be visited, the product of
  the counts of the loops around it; `Workflow.visitBudget` : the sum over all indices.
-/

namespace ImageWorkflow

/-- A list of instructions. -/
abbrev Workflow := List Instruction

namespace Workflow

/-- The open loops after an instruction. -/
def stepOpenLoops (opened : List Nat) (index : Nat) : Instruction → List Nat
  | .loop .. => index :: opened
  | .loopEnd => opened.tail
  | _ => opened

/-- The open loops after the instructions from index `index` on. -/
def openLoopsFrom (opened : List Nat) (index : Nat) : Workflow → List Nat
  | [] => opened
  | i :: rest => openLoopsFrom (stepOpenLoops opened index i) (index + 1) rest

/-- The loops open before index `n`, innermost first. -/
def openLoops (w : Workflow) (n : Nat) : List Nat := openLoopsFrom [] 0 (w.take n)

/-- The first `loopEnd` that closes a loop opened before, `depth` further loops being open. -/
def closingEnd? (depth index : Nat) : Workflow → Option Nat
  | [] => none
  | .loop .. :: rest => closingEnd? (depth + 1) (index + 1) rest
  | .loopEnd :: rest =>
    match depth with
    | 0 => some index
    | depth + 1 => closingEnd? depth (index + 1) rest
  | _ :: rest => closingEnd? depth (index + 1) rest

/-- The `loopEnd` that closes the loop at index `n`. -/
def matchingEnd? (w : Workflow) (n : Nat) : Option Nat := closingEnd? 0 (n + 1) (w.drop (n + 1))

/-- How often the body of the loop at an index is run. -/
def loopCount (w : Workflow) (index : Nat) : Nat :=
  match w[index]? with
  | some (.loop count _) => count.toNat
  | _ => 1

/-- How often the instruction at index `n` can be visited. -/
def visitBound (w : Workflow) (n : Nat) : Nat := ((w.openLoops n).map w.loopCount).foldr (· * ·) 1

/-- How many visits a run can make. -/
def visitBudget (w : Workflow) : Nat :=
  ((List.range w.length).map w.visitBound).foldr (· + ·) 0

end Workflow

end ImageWorkflow
