import ImageWorkflow.Settings.Basic
import ImageWorkflow.Json.Display

/-!
# Settings on the wire

`Settings.toWire` : the object of the fields that are set, in a fixed order.  `Settings.ofWire` :
reads such an object in any order; unknown keys and null values are passed over, and the first value
of a wrong kind is reported (`SettingsFault`).
-/

namespace ImageWorkflow

/-- The object of an adapter. -/
def LoRA.toJson (l : LoRA) : Json :=
  .object [("file", .str l.file), ("weight", .float l.weight), ("mode", .str l.mode)]

/-- What is wrong with a settings object. -/
inductive SettingsFault where
  | notMapping (value : Json)
  | notInteger (field : String) (value : Json)
  | notNumber (field : String) (value : Json)
  | notString (field : String) (value : Json)
  | notList (field : String) (value : Json)
  | loraNotMapping (value : Json)
  | loraWithoutFile
  | loraWeight (value : Json)
  | loraMode (value : Json)
  /-- An integer past every floating-point number. -/
  | tooLarge

/-- The wording of a fault. -/
def SettingsFault.message : SettingsFault → String
  | .notMapping value => s!"config payload must be a mapping, got {value.kindName}"
  | .notInteger field value => s!"config '{field}' must be an integer, got {value.literal}"
  | .notNumber field value => s!"config '{field}' must be a number, got {value.literal}"
  | .notString field value => s!"config '{field}' must be a string, got {value.literal}"
  | .notList field value => s!"config '{field}' must be a list, got {value.literal}"
  | .loraNotMapping value => s!"LoRA entry must be a mapping, got {value.kindName}"
  | .loraWithoutFile => "LoRA entry requires a non-empty 'file'"
  | .loraWeight value => s!"LoRA weight must be a number, got {value.literal}"
  | .loraMode value => s!"LoRA mode must be a string, got {value.literal}"
  | .tooLarge => tooLargeMessage

/-- The fault of a value that is not the number wanted. -/
def SettingsFault.ofNumber (wrongKind : SettingsFault) : NumberFault → SettingsFault
  | .wrongKind => wrongKind
  | .tooLarge => .tooLarge

/-- The file of an adapter; it must have a name. -/
def LoRA.readFile (value : Json) : Except SettingsFault String :=
  match value.get? "file" with
  | some (.str file) => if file = "" then .error .loraWithoutFile else .ok file
  | _ => .error .loraWithoutFile

/-- The weight of an adapter; one if it is missing. -/
def LoRA.readWeight (value : Json) : Except SettingsFault Binary64 :=
  match value.get? "weight" with
  | none => .ok (Binary64.ofRat 1)
  | some w => w.real?.mapError (.ofNumber (.loraWeight w))

/-- The mode of an adapter; all if it is missing. -/
def LoRA.readMode (value : Json) : Except SettingsFault String :=
  match value.get? "mode" with
  | none => .ok "all"
  | some (.str mode) => .ok mode
  | some m => .error (.loraMode m)

/-- The adapter of an object. -/
def LoRA.ofJson (value : Json) : Except SettingsFault LoRA :=
  match value with
  | .object _ => do
    let file ← readFile value
    let weight ← readWeight value
    let mode ← readMode value
    return { file, weight, mode }
  | value => .error (.loraNotMapping value)

namespace Settings

/-- The wire object's members. -/
def toWire (s : Settings) : Members :=
  let int (name : String) (field : Option Int) := field.map fun n => (name, Json.int n)
  let real (name : String) (field : Option Binary64) := field.map fun x => (name, Json.float x)
  let str (name : String) (field : Option String) := field.map fun t => (name, Json.str t)
  [int "width" s.width, int "height" s.height, int "steps" s.steps,
    real "guidanceScale" s.guidanceScale, int "seed" s.seed, str "model" s.model,
    str "samplerName" s.sampler, int "numFrames" s.numFrames, real "strength" s.strength,
    int "batchCount" s.batchCount, int "batchSize" s.batchSize, int "clipSkip" s.clipSkip,
    real "shift" s.shift,
    s.loras.map fun loras => ("loras", Json.array (loras.map LoRA.toJson))].filterMap id

/-- An integer for the field `name`. -/
def readInteger (name : String) (value : Json) : Except SettingsFault (Option Int) :=
  value.integer?.mapError (.ofNumber (.notInteger name value)) |>.map some

/-- A number for the field `name`. -/
def readNumber (name : String) (value : Json) : Except SettingsFault (Option Binary64) :=
  value.real?.mapError (.ofNumber (.notNumber name value)) |>.map some

/-- A string for the field `name`. -/
def readString (name : String) : Json → Except SettingsFault (Option String)
  | .str s => .ok (some s)
  | value => .error (.notString name value)

/-- Adapters for the field `name`. -/
def readLoRAs (name : String) : Json → Except SettingsFault (Option (List LoRA))
  | .array items => some <$> items.mapM LoRA.ofJson
  | value => .error (.notList name value)

/-- Set the field that a wire key names; an unknown key sets none, and so does a null value. -/
def readMember (s : Settings) (key : String) (value : Json) : Except SettingsFault Settings :=
  match value with
  | .null => .ok s
  | value =>
    match key with
    | "width" => do return { s with width := ← readInteger "width" value }
    | "height" => do return { s with height := ← readInteger "height" value }
    | "steps" => do return { s with steps := ← readInteger "steps" value }
    | "guidanceScale" => do return { s with guidanceScale := ← readNumber "guidance_scale" value }
    | "seed" => do return { s with seed := ← readInteger "seed" value }
    | "model" => do return { s with model := ← readString "model" value }
    | "samplerName" => do return { s with sampler := ← readString "sampler_name" value }
    | "numFrames" => do return { s with numFrames := ← readInteger "num_frames" value }
    | "strength" => do return { s with strength := ← readNumber "strength" value }
    | "batchCount" => do return { s with batchCount := ← readInteger "batch_count" value }
    | "batchSize" => do return { s with batchSize := ← readInteger "batch_size" value }
    | "clipSkip" => do return { s with clipSkip := ← readInteger "clip_skip" value }
    | "shift" => do return { s with shift := ← readNumber "shift" value }
    | "loras" => do return { s with loras := ← readLoRAs "loras" value }
    | _ => .ok s

/-- The settings of a wire object's members. -/
def ofMembers (members : Members) : Except SettingsFault Settings :=
  members.foldlM (fun s member => s.readMember member.1 member.2) empty

/-- The settings of a wire value. -/
def ofWire : Json → Except SettingsFault Settings
  | .object members => ofMembers members
  | value => .error (.notMapping value)

end Settings

end ImageWorkflow
