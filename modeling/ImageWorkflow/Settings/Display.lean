import ImageWorkflow.Number.Shortest
import ImageWorkflow.Settings.Basic
import ImageWorkflow.Text.Quoted

/-!
# Settings in messages

`Settings.literals` : the fields that are set, each with its value as it is quoted in messages.
-/

namespace ImageWorkflow

/-- Things in round brackets; one alone is followed by a comma. -/
def roundBracketed : List String → String
  | [] => "()"
  | [item] => "(" ++ item ++ ",)"
  | items => "(" ++ ", ".intercalate items ++ ")"

/-- An adapter with its fields by name. -/
def LoRA.literal (l : LoRA) : String :=
  s!"LoRA(file={Text.quote l.file}, weight={l.weight.text}, mode={Text.quote l.mode})"

/-- The fields that are set, in order, with their values. -/
def Settings.literals (s : Settings) : List (String × String) :=
  let int (name : String) (v : Option Int) := v.map fun n => (name, toString n)
  let real (name : String) (v : Option Binary64) := v.map fun x => (name, x.text)
  let text (name : String) (v : Option String) := v.map fun t => (name, Text.quote t)
  [int "width" s.width, int "height" s.height, int "steps" s.steps,
    real "guidance_scale" s.guidanceScale, int "seed" s.seed, text "model" s.model,
    text "sampler_name" s.sampler, int "num_frames" s.numFrames, real "strength" s.strength,
    int "batch_count" s.batchCount, int "batch_size" s.batchSize, int "clip_skip" s.clipSkip,
    real "shift" s.shift,
    s.loras.map fun ls => ("loras", roundBracketed (ls.map LoRA.literal))].filterMap id

end ImageWorkflow
