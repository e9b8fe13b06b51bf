import ImageWorkflow.Settings.Wire

/-!
# Resolved generation parameters

`Generation` : every parameter of one generation request.  `withSettings` and `withInpainting` put
partial settings on top; `metadata` is the parameters' object, with optional ones only when they are
set, and `requestBody` the same object with the prompt in front.
* `ofMembers`, `withInpaintingMembers` : parameters by name, or what is wrong with a name
  (`ParameterFault`).  A value of another kind than the parameter's is kept and shown as it is;
* `adapterFault?` : the one such value that cannot be shown, for the adapters.
-/

namespace ImageWorkflow

/-- Inpainting options of which any may be missing. -/
structure Inpainting where
  maskBlur : Option Quantity := none
  maskBlurOutset : Option Quantity := none
  restoreOriginal : Option Bool := none
  deriving DecidableEq, Repr

/-- Every option that `t` gives as in `t`, the others as in `s`. -/
def Inpainting.merge (s t : Inpainting) : Inpainting where
  maskBlur := t.maskBlur.or s.maskBlur
  maskBlurOutset := t.maskBlurOutset.or s.maskBlurOutset
  restoreOriginal := t.restoreOriginal.or s.restoreOriginal

/-- The parameters of one generation request. -/
structure Generation where
  width : Quantity := .whole 1024
  height : Quantity := .whole 1024
  steps : Quantity := .whole 8
  guidanceScale : Quantity := .real (Binary64.ofRat 1)
  seed : Quantity := .whole (-1)
  seedMode : String := "Scale Alike"
  sampler : String := "UniPC Trailing"
  model : String := ""
  shift : Quantity := .real (Binary64.ofRat 3)
  strength : Quantity := .real (Binary64.ofRat 1)
  batchSize : Quantity := .whole 1
  batchCount : Quantity := .whole 1
  clipSkip : Option Quantity := none
  numFrames : Option Quantity := none
  negativePrompt : String := ""
  loras : List LoRA := []
  inpainting : Inpainting := {}
  /-- Values of another kind than the parameter's, by its name. -/
  unchecked : Members := []

/-- The quantity that a value is; a value of another kind is none. -/
def Json.quantity? : Json → Option Quantity
  | .int n => some (.whole n)
  | .float x => some (.real x)
  | _ => none

/-- The truth value that a value is. -/
def Json.flag? : Json → Option Bool
  | .bool b => some b
  | _ => none

/-- What is wrong with parameters by name. -/
inductive ParameterFault where
  /-- There is no parameter of the name. -/
  | unknownName (owner name : String)
  /-- A value among the adapters is none. -/
  | notAnAdapter (value : Json)
  /-- The adapters are no list. -/
  | notAList (value : Json)

/-- The wording of a fault. -/
def ParameterFault.message : ParameterFault → String
  | .unknownName owner name => s!"{owner}.__init__() got an unexpected keyword argument '{name}'"
  | .notAnAdapter value => s!"'{value.kindName}' object has no attribute 'to_dict'"
  | .notAList value => s!"'{value.kindName}' object is not iterable"

/-- Members without those of some names. -/
def Members.without (members : Members) (names : List String) : Members :=
  members.filter fun member => !names.contains member.1

/-- The value of a list of members for a name, or another one. -/
def Members.getOr (members : Members) (name : String) (other : Json) : Json :=
  (members.get? name).getD other

namespace Generation

/-! ## Parameters by name -/

/-- Set the parameter with a name to a value of its kind, if there is such a parameter and the value
is of its kind. -/
def setNamed? (g : Generation) (name : String) (value : Json) : Option Generation :=
  let optional (set : Option Quantity → Generation) : Option Generation :=
    match value with
    | .null => some (set none)
    | value => value.quantity?.map fun q => set (some q)
  match name with
  | "width" => value.quantity?.map ({ g with width := · })
  | "height" => value.quantity?.map ({ g with height := · })
  | "steps" => value.quantity?.map ({ g with steps := · })
  | "guidance_scale" => value.quantity?.map ({ g with guidanceScale := · })
  | "seed" => value.quantity?.map ({ g with seed := · })
  | "seed_mode" => value.str?.map ({ g with seedMode := · })
  | "sampler" => value.str?.map ({ g with sampler := · })
  | "model" => value.str?.map ({ g with model := · })
  | "shift" => value.quantity?.map ({ g with shift := · })
  | "strength" => value.quantity?.map ({ g with strength := · })
  | "batch_size" => value.quantity?.map ({ g with batchSize := · })
  | "batch_count" => value.quantity?.map ({ g with batchCount := · })
  | "clip_skip" => optional ({ g with clipSkip := · })
  | "num_frames" => optional ({ g with numFrames := · })
  | "negative_prompt" => value.str?.map ({ g with negativePrompt := · })
  | "mask_blur" => optional ({ g with inpainting.maskBlur := · })
  | "mask_blur_outset" => optional ({ g with inpainting.maskBlurOutset := · })
  | "restore_original_after_inpaint" =>
    match value with
    | .null => some { g with inpainting.restoreOriginal := none }
    | value => value.flag?.map fun b => { g with inpainting.restoreOriginal := some b }
  | _ => none

/-- The names of the inpainting options. -/
def inpaintingNames : List String :=
  ["mask_blur", "mask_blur_outset", "restore_original_after_inpaint"]

/-- The names of the parameters. -/
def parameterNames : List String := [
  "width", "height", "steps", "guidance_scale", "seed", "seed_mode", "sampler", "model", "shift",
  "strength", "batch_size", "batch_count", "clip_skip", "num_frames", "negative_prompt",
  "loras"] ++ inpaintingNames

/-- Set the parameter with a name, whatever the kind of the value. -/
def give (g : Generation) (name : String) (value : Json) : Generation :=
  match g.setNamed? name value with
  | some g => { g with unchecked := g.unchecked.without [name] }
  | none => { g with unchecked := g.unchecked.insert name value }

/-- Set parameters with names. -/
def giveAll (g : Generation) (members : Members) : Generation :=
  members.foldl (fun g member => g.give member.1 member.2) g

/-- Members whose names are all among `names`; `owner` is what has parameters of these names. -/
def checkNames (owner : String) (names : List String) (members : Members) :
    Except ParameterFault Members :=
  match members.find? fun member => !names.contains member.1 with
  | some member => .error (.unknownName owner member.1)
  | none => .ok members

/-- The parameters that values give by name, the others as they are by default. -/
def ofMembers (members : Members) : Except ParameterFault Generation :=
  (checkNames "GenerationConfig" parameterNames members).map (giveAll {})

/-- What is wrong with the adapters, if they cannot be shown. -/
def adapterFault? (g : Generation) : Option ParameterFault :=
  let value := g.unchecked.getOr "loras" .null
  if !value.isTruthy then none
  else match value with
    | .array items => items.head?.map .notAnAdapter
    | .str _ | .object _ => some (.notAnAdapter (.str ""))
    | value => some (.notAList value)

/-! ## Partial settings on top -/

/-- The names of the parameters that settings set. -/
def namesSet (s : Settings) : List String :=
  s.setFields.map fun field => if field = "sampler_name" then "sampler" else field

/-- The parameters with the given settings in place of their own. -/
def withSettings (g : Generation) (s : Settings) : Generation :=
  { g with
    width := (s.width.map .whole).getD g.width
    height := (s.height.map .whole).getD g.height
    steps := (s.steps.map .whole).getD g.steps
    guidanceScale := (s.guidanceScale.map .real).getD g.guidanceScale
    seed := (s.seed.map .whole).getD g.seed
    model := s.model.getD g.model
    sampler := s.sampler.getD g.sampler
    numFrames := (s.numFrames.map .whole).or g.numFrames
    strength := (s.strength.map .real).getD g.strength
    batchCount := (s.batchCount.map .whole).getD g.batchCount
    batchSize := (s.batchSize.map .whole).getD g.batchSize
    clipSkip := (s.clipSkip.map .whole).or g.clipSkip
    shift := (s.shift.map .real).getD g.shift
    loras := s.loras.getD g.loras
    unchecked := g.unchecked.without (namesSet s) }

/-- The names of the options that are given. -/
def namesGiven (options : Inpainting) : List String :=
  (if options.maskBlur.isSome then ["mask_blur"] else []) ++
  (if options.maskBlurOutset.isSome then ["mask_blur_outset"] else []) ++
  (if options.restoreOriginal.isSome then ["restore_original_after_inpaint"] else [])

/-- The parameters with the given inpainting options in place of their own. -/
def withInpainting (g : Generation) (options : Inpainting) : Generation :=
  { g with
    inpainting := g.inpainting.merge options
    unchecked := g.unchecked.without (namesGiven options) }

/-- The parameters with the inpainting options that values give by name; null gives none. -/
def withInpaintingMembers (g : Generation) (members : Members) :
    Except ParameterFault Generation :=
  (checkNames "InpaintOptions" inpaintingNames members).map fun members =>
    g.giveAll (members.filter fun member => !member.2.isNull)

/-! ## Objects -/

/-- The member for a parameter that is always shown. -/
def always (g : Generation) (name : String) (value : Json) : Members :=
  [(name, g.unchecked.getOr name value)]

/-- The member for a parameter that is shown when it is set, under another name perhaps. -/
def whenSet (g : Generation) (name shown : String) (value : Option Json) : Members :=
  match (g.unchecked.get? name).or value with
  | some value => [(shown, value)]
  | none => []

/-- The member for a parameter that is shown unless it counts as nothing. -/
def unlessEmpty (g : Generation) (name : String) (value : Json) : Members :=
  let value := g.unchecked.getOr name value
  if value.isTruthy then [(name, value)] else []

/-- The parameters as an object; the last seven members only when they are set. -/
def metadata (g : Generation) : Members :=
  let optional (name : String) (field : Option Quantity) : Members :=
    g.whenSet name name (field.map Quantity.toJson)
  g.always "negative_prompt" (.str g.negativePrompt) ++ g.always "width" g.width.toJson ++
  g.always "height" g.height.toJson ++ g.always "steps" g.steps.toJson ++
  g.always "guidance_scale" g.guidanceScale.toJson ++ g.always "seed" g.seed.toJson ++
  g.always "seed_mode" (.str g.seedMode) ++ g.always "sampler" (.str g.sampler) ++
  g.always "shift" g.shift.toJson ++ g.always "strength" g.strength.toJson ++
  g.always "batch_size" g.batchSize.toJson ++ g.always "batch_count" g.batchCount.toJson ++
  g.unlessEmpty "model" (.str g.model) ++ optional "clip_skip" g.clipSkip ++
  optional "num_frames" g.numFrames ++ g.unlessEmpty "loras" (.array (g.loras.map LoRA.toJson)) ++
  optional "mask_blur" g.inpainting.maskBlur ++
  optional "mask_blur_outset" g.inpainting.maskBlurOutset ++
  g.whenSet "restore_original_after_inpaint" "preserve_original_after_inpaint"
    (g.inpainting.restoreOriginal.map .bool)

/-- The object of a request for `prompt`. -/
def requestBody (g : Generation) (prompt : String) : Members :=
  ("prompt", .str prompt) :: g.metadata

end Generation

end ImageWorkflow
