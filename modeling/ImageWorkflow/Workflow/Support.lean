import ImageWorkflow.Workflow.Basic

/-!
# How far a workflow is supported

`Workflow.support` : the number of instructions of each support level, and whether any of them
generates images.
-/

namespace ImageWorkflow

/-- Instructions of a workflow by support level. -/
structure SupportCounts where
  full : Nat
  partially : Nat
  unsupported : Nat
  hasTrigger : Bool
  deriving DecidableEq, Repr

namespace SupportCounts

/-- The number of instructions. -/
def total (c : SupportCounts) : Nat := c.full + c.partially + c.unsupported

/-- Whether every instruction is carried out locally. -/
def isFullySupported (c : SupportCounts) : Bool := c.partially == 0 && c.unsupported == 0

end SupportCounts

/-- The number of instructions of a level. -/
def Workflow.countLevel (w : Workflow) (level : SupportLevel) : Nat :=
  w.countP fun i => i.kind.support = level

/-- The counts of a workflow. -/
def Workflow.support (w : Workflow) : SupportCounts where
  full := w.countLevel .full
  partially := w.countLevel .partially
  unsupported := w.countLevel .unsupported
  hasTrigger := w.any Instruction.isTrigger

end ImageWorkflow
