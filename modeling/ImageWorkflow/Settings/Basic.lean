import ImageWorkflow.Number.Quantity

/-!
# Partial generation settings

`Settings` : the generation settings that a workflow sets, each of them optional.
`Settings.merge s t` : `t` on top of `s`, field by field; the empty settings are its unit.
`Settings.setFields` : the names of the fields that are set.
-/

namespace ImageWorkflow

/-- A low-rank adapter: file, weight and application mode. -/
structure LoRA where
  file : String
  weight : Binary64
  mode : String
  deriving DecidableEq, Repr

/-- Generation settings of which any may be missing. -/
structure Settings where
  width : Option Int := none
  height : Option Int := none
  steps : Option Int := none
  guidanceScale : Option Binary64 := none
  seed : Option Int := none
  model : Option String := none
  sampler : Option String := none
  numFrames : Option Int := none
  strength : Option Binary64 := none
  batchCount : Option Int := none
  batchSize : Option Int := none
  clipSkip : Option Int := none
  shift : Option Binary64 := none
  loras : Option (List LoRA) := none
  deriving DecidableEq, Repr

namespace Settings

/-- No setting at all. -/
def empty : Settings := {}

/-- Every field that `t` sets as in `t`, the others as in `s`. -/
def merge (s t : Settings) : Settings where
  width := t.width.or s.width
  height := t.height.or s.height
  steps := t.steps.or s.steps
  guidanceScale := t.guidanceScale.or s.guidanceScale
  seed := t.seed.or s.seed
  model := t.model.or s.model
  sampler := t.sampler.or s.sampler
  numFrames := t.numFrames.or s.numFrames
  strength := t.strength.or s.strength
  batchCount := t.batchCount.or s.batchCount
  batchSize := t.batchSize.or s.batchSize
  clipSkip := t.clipSkip.or s.clipSkip
  shift := t.shift.or s.shift
  loras := t.loras.or s.loras

/-- The field names in order, each with whether it is set. -/
def fieldFlags (s : Settings) : List (String × Bool) := [
  ("width", s.width.isSome), ("height", s.height.isSome), ("steps", s.steps.isSome),
  ("guidance_scale", s.guidanceScale.isSome), ("seed", s.seed.isSome), ("model", s.model.isSome),
  ("sampler_name", s.sampler.isSome), ("num_frames", s.numFrames.isSome),
  ("strength", s.strength.isSome), ("batch_count", s.batchCount.isSome),
  ("batch_size", s.batchSize.isSome), ("clip_skip", s.clipSkip.isSome),
  ("shift", s.shift.isSome), ("loras", s.loras.isSome)]

/-- The names of the fields that are set, in order. -/
def setFields (s : Settings) : List String :=
  s.fieldFlags.filterMap fun field => if field.2 then some field.1 else none

/-- Whether no field is set. -/
def isEmpty (s : Settings) : Bool := s.setFields.isEmpty

/-- Equality of adapters, weights by value. -/
def sameLoRA (a b : LoRA) : Bool :=
  a.file == b.file && a.weight.sameValue b.weight && a.mode == b.mode

/-- Equality of optional values by `eq`. -/
def sameOption {α : Type} (eq : α → α → Bool) : Option α → Option α → Bool
  | none, none => true
  | some a, some b => eq a b
  | _, _ => false

/-- Equality of lists by `eq`. -/
def sameList {α : Type} (eq : α → α → Bool) : List α → List α → Bool
  | [], [] => true
  | a :: as, b :: bs => eq a b && sameList eq as bs
  | _, _ => false

/-- Equality of settings, numbers by value. -/
def same (s t : Settings) : Bool :=
  let real := sameOption Binary64.sameValue
  s.width == t.width && s.height == t.height && s.steps == t.steps &&
    real s.guidanceScale t.guidanceScale && s.seed == t.seed && s.model == t.model &&
    s.sampler == t.sampler && s.numFrames == t.numFrames && real s.strength t.strength &&
    s.batchCount == t.batchCount && s.batchSize == t.batchSize && s.clipSkip == t.clipSkip &&
    real s.shift t.shift && sameOption (sameList sameLoRA) s.loras t.loras

end Settings

end ImageWorkflow
