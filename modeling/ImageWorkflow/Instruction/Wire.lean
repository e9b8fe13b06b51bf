import ImageWorkflow.Instruction.Catalogue
import ImageWorkflow.Settings.Wire
import ImageWorkflow.Json.Parser
import ImageWorkflow.Text.Digits

/-!
# Instructions on the wire

`Instruction.toWire` : the object with one member, the kind's key and the parameters.
`Instruction.ofWire` : reads such an object.  A value that is no instruction is refused
(`DecodeError`); three further causes are not refusals (`DecodeFailure`): an integer past every
floating-point number, and weight indices that look like numbers but cannot be read as such.
-/

namespace ImageWorkflow

/-- What is wrong with the parameters of an instruction. -/
inductive PayloadFault where
  | expectedTrue (value : Json)
  | expectedString (value : Json)
  | expectedInteger (field : Option String) (value : Json)
  | expectedNumber (field : Option String) (value : Json)
  | expectedMapping (value : Json)
  | expectedBoolean (field : String) (value : Json)
  | missingCount
  | missingMaxSize
  | badWeightKey (key : String)
  | settings (fault : SettingsFault)

/-- A field's name in front of a complaint. -/
def fieldLabel : Option String → String
  | some field => s!"'{field}' "
  | none => ""

/-- The wording of a fault. -/
def PayloadFault.message : PayloadFault → String
  | .expectedTrue value => s!"expected true, got {value.literal}"
  | .expectedString value => s!"expected a string, got {value.literal}"
  | .expectedInteger field value => s!"{fieldLabel field}expected an integer, got {value.literal}"
  | .expectedNumber field value => s!"{fieldLabel field}expected a number, got {value.literal}"
  | .expectedMapping value => s!"expected a mapping, got {value.literal}"
  | .expectedBoolean field value => s!"'{field}' expected a boolean, got {value.literal}"
  | .missingCount => "missing 'loop' count"
  | .missingMaxSize => "requires 'maxWidth' and 'maxHeight'"
  | .badWeightKey key => s!"weight keys must look like 'index_N', got {Text.quote key}"
  | .settings fault => fault.message

/-- Why a value is refused as an instruction. -/
inductive DecodeError where
  | notSingleKey (value : Json)
  | unknownKey (key : String)
  | payload (kind : Kind) (fault : PayloadFault)

/-- The wording of a refusal. -/
def DecodeError.message : DecodeError → String
  | .notSingleKey value =>
    s!"Instruction must be a mapping with exactly one key, got {value.literal}"
  | .unknownKey key => s!"Unknown instruction '{key}'"
  | .payload kind fault => s!"'{kind.key}': {fault.message}"

/-- Why a value gives no instruction. -/
inductive DecodeFailure where
  | refused (error : DecodeError)
  /-- An integer past every floating-point number. -/
  | tooLarge
  /-- A numeral with a digit character that has no place value. -/
  | notANumeral (numeral : String)
  /-- A numeral with more digits than are read. -/
  | tooManyDigits (count : Nat)

/-- The wording of a failure. -/
def DecodeFailure.message : DecodeFailure → String
  | .refused error => error.message
  | .tooLarge => tooLargeMessage
  | .notANumeral numeral =>
    "invalid literal for int() with base 10: " ++
      String.ofList ((Text.quote numeral).toList.take 200)
  | .tooManyDigits count => tooManyDigitsMessage count

namespace Instruction

/-! ## Writing -/

/-- The members whose value is there. -/
def presentMembers (fields : List (String × Option Json)) : Members :=
  fields.filterMap fun field => field.2.map (field.1, ·)

/-- The parameters on the wire; `true` for an instruction without any. -/
def payload : Instruction → Json
  | .note text | .prompt text | .negativePrompt text => .str text
  | .loop count start => .object [("loop", .int count), ("start", .int start)]
  | .config settings => .object settings.toWire
  | .frames count => .int count
  | .canvasLoad filename | .canvasSave filename | .moodboardAdd filename | .maskLoad filename =>
    .str filename
  | .moveScale x y scale =>
    .object [("position_X", .float x), ("position_Y", .float y), ("canvas_scale", .float scale)]
  | .adaptSize maxWidth maxHeight =>
    .object [("maxWidth", .int maxWidth), ("maxHeight", .int maxHeight)]
  | .moodboardRemove index => .int index
  | .moodboardWeights weights =>
    .object (weights.map fun entry => (s!"index_{entry.1}", .float entry.2))
  | .loopAddMoodboard folder | .loopLoad folder => .str folder
  | .maskBody upper lower clothes neck =>
    .object (presentMembers [("upper", upper.map .bool), ("lower", lower.map .bool),
      ("clothes", clothes.map .bool), ("neck", neck.map .int)])
  | .maskAsk description | .askZoom description => .str description
  | .poseJson data => .object data
  | .inpaintTools strength maskBlur maskBlurOutset restoreOriginal =>
    .object (presentMembers [("strength", strength.map .float), ("maskBlur", maskBlur.map .int),
      ("maskBlurOutset", maskBlurOutset.map .int),
      ("restoreOriginalAfterInpaint", restoreOriginal.map .bool)])
  | .xlMagic original target negative =>
    .object (presentMembers [("original", original.map .float), ("target", target.map .float),
      ("negative", negative.map .float)])
  | .loopSave stem => .str stem
  | .loopEnd | .stop | .canvasClear | .crop | .moodboardClear | .moodboardCanvas | .maskClear
  | .maskGet | .maskBackground | .maskForeground | .depthExtract | .depthCanvas | .depthToCanvas
  | .poseExtract | .removeBackground | .faceZoom | .generate => .bool true

/-- The wire object. -/
def toWire (i : Instruction) : Json := .object [(i.kind.key, i.payload)]

/-! ## Reading -/

/-- Refuse the parameters of a `kind`. -/
def refuse {α : Type} (kind : Kind) (fault : PayloadFault) : Except DecodeFailure α :=
  .error (.refused (.payload kind fault))

/-- A number's fault as a failure. -/
def ofNumberFault (kind : Kind) (wrongKind : PayloadFault) : NumberFault → DecodeFailure
  | .wrongKind => .refused (.payload kind wrongKind)
  | .tooLarge => .tooLarge

/-- A string parameter. -/
def readText (kind : Kind) : Json → Except DecodeFailure String
  | .str s => .ok s
  | value => refuse kind (.expectedString value)

/-- An integer parameter. -/
def readInteger (kind : Kind) (field : Option String) (value : Json) : Except DecodeFailure Int :=
  value.integer?.mapError (ofNumberFault kind (.expectedInteger field value))

/-- A number parameter. -/
def readReal (kind : Kind) (field : Option String) (value : Json) : Except DecodeFailure Binary64 :=
  value.real?.mapError (ofNumberFault kind (.expectedNumber field value))

/-- An object parameter. -/
def readMapping (kind : Kind) : Json → Except DecodeFailure Members
  | .object members => .ok members
  | value => refuse kind (.expectedMapping value)

/-- An optional member; null stands for a missing one. -/
def readOptional {α : Type} (members : Members) (field : String)
    (read : Json → Except DecodeFailure α) : Except DecodeFailure (Option α) :=
  match Members.get? members field with
  | none | some .null => .ok none
  | some value => some <$> read value

/-- An optional boolean member. -/
def readFlag (kind : Kind) (members : Members) (field : String) :
    Except DecodeFailure (Option Bool) :=
  readOptional members field fun
    | .bool b => .ok b
    | value => refuse kind (.expectedBoolean field value)

/-- An optional integer member. -/
def readCount (kind : Kind) (members : Members) (field : String) :
    Except DecodeFailure (Option Int) :=
  readOptional members field (readInteger kind (some field))

/-- An optional number member. -/
def readAmount (kind : Kind) (members : Members) (field : String) :
    Except DecodeFailure (Option Binary64) :=
  readOptional members field (readReal kind (some field))

/-- A number member with a default. -/
def readRealOr (kind : Kind) (members : Members) (field : String) (fallback : Binary64) :
    Except DecodeFailure Binary64 :=
  match Members.get? members field with
  | none => .ok fallback
  | some value => readReal kind (some field) value

/-- The digits of a weight key, after `index_`. -/
def weightDigits? (key : String) : Option (List Char) :=
  match key.toList with
  | 'i' :: 'n' :: 'd' :: 'e' :: 'x' :: '_' :: digits =>
    if digits.isEmpty || !digits.all Text.isDigitLike then none else some digits
  | _ => none

/-- The index that a weight key's digits write. -/
def readIndex (digits : List Char) : Except DecodeFailure Nat :=
  let leading := (digits.takeWhile fun c => (Text.decimalValue? c).isSome).length
  if leading > maxIntegerDigits then .error (.tooManyDigits leading)
  else match Text.readDigits? digits with
    | some n => .ok n
    | none => .error (.notANumeral (String.ofList digits))

/-- Set the weight of an index: in place if it has one, else at the end. -/
def setWeight (weights : List (Nat × Binary64)) (index : Nat) (weight : Binary64) :
    List (Nat × Binary64) :=
  match weights with
  | [] => [(index, weight)]
  | (i, w) :: rest =>
    if i = index then (i, weight) :: rest else (i, w) :: setWeight rest index weight

/-- The weights of an object, by increasing index; of two keys for one index the later counts. -/
def readWeights (members : Members) : Except DecodeFailure (List (Nat × Binary64)) := do
  let weights ← members.foldlM (fun weights (key, value) =>
    match weightDigits? key with
    | none => refuse .moodboardWeights (.badWeightKey key)
    | some digits => do
      let weight ← readReal .moodboardWeights (some key) value
      return setWeight weights (← readIndex digits) weight) []
  return weights.mergeSort fun a b => a.1 ≤ b.1

/-- The settings of a `config`. -/
def readSettings (members : Members) : Except DecodeFailure Settings :=
  (Settings.ofMembers members).mapError fun
    | .tooLarge => .tooLarge
    | fault => .refused (.payload .config (.settings fault))

/-- An instruction without parameters, from `true` or an empty object. -/
def readBare (i : Instruction) : Json → Except DecodeFailure Instruction
  | .bool true => .ok i
  | .object [] => .ok i
  | value => refuse i.kind (.expectedTrue value)

/-- The instruction of a kind with the given parameters. -/
def ofPayload (kind : Kind) (value : Json) : Except DecodeFailure Instruction :=
  match kind with
  | .note => .note <$> readText .note value
  | .loop =>
    match value with
    | .object members =>
      match Members.get? members "loop" with
      | none => refuse .loop .missingCount
      | some count => do
        let count ← readInteger .loop (some "loop") count
        let start ← match Members.get? members "start" with
          | none => .ok 0
          | some start => readInteger .loop (some "start") start
        return .loop count start
    | value => do return .loop (← readInteger .loop none value) 0
  | .loopEnd => readBare .loopEnd value
  | .stop => readBare .stop value
  | .prompt => .prompt <$> readText .prompt value
  | .negativePrompt => .negativePrompt <$> readText .negativePrompt value
  | .config => do return .config (← readSettings (← readMapping .config value))
  | .frames => .frames <$> readInteger .frames none value
  | .canvasClear => readBare .canvasClear value
  | .canvasLoad => .canvasLoad <$> readText .canvasLoad value
  | .canvasSave => .canvasSave <$> readText .canvasSave value
  | .moveScale => do
    let members ← readMapping .moveScale value
    let x ← readRealOr .moveScale members "position_X" .zero
    let y ← readRealOr .moveScale members "position_Y" .zero
    let scale ← readRealOr .moveScale members "canvas_scale" (.ofRat 1)
    return .moveScale x y scale
  | .adaptSize => do
    let members ← readMapping .adaptSize value
    match Members.get? members "maxWidth", Members.get? members "maxHeight" with
    | some width, some height => do
      let width ← readInteger .adaptSize (some "maxWidth") width
      let height ← readInteger .adaptSize (some "maxHeight") height
      return .adaptSize width height
    | _, _ => refuse .adaptSize .missingMaxSize
  | .crop => readBare .crop value
  | .moodboardClear => readBare .moodboardClear value
  | .moodboardCanvas => readBare .moodboardCanvas value
  | .moodboardAdd => .moodboardAdd <$> readText .moodboardAdd value
  | .moodboardRemove => .moodboardRemove <$> readInteger .moodboardRemove none value
  | .moodboardWeights => do
    return .moodboardWeights (← readWeights (← readMapping .moodboardWeights value))
  | .loopAddMoodboard => .loopAddMoodboard <$> readText .loopAddMoodboard value
  | .maskClear => readBare .maskClear value
  | .maskLoad => .maskLoad <$> readText .maskLoad value
  | .maskGet => readBare .maskGet value
  | .maskBackground => readBare .maskBackground value
  | .maskForeground => readBare .maskForeground value
  | .maskBody => do
    let members ← readMapping .maskBody value
    let upper ← readFlag .maskBody members "upper"
    let lower ← readFlag .maskBody members "lower"
    let clothes ← readFlag .maskBody members "clothes"
    let neck ← readCount .maskBody members "neck"
    return .maskBody upper lower clothes neck
  | .maskAsk => .maskAsk <$> readText .maskAsk value
  | .depthExtract => readBare .depthExtract value
  | .depthCanvas => readBare .depthCanvas value
  | .depthToCanvas => readBare .depthToCanvas value
  | .poseExtract => readBare .poseExtract value
  | .poseJson => .poseJson <$> readMapping .poseJson value
  | .removeBackground => readBare .removeBackground value
  | .faceZoom => readBare .faceZoom value
  | .askZoom => .askZoom <$> readText .askZoom value
  | .inpaintTools => do
    let members ← readMapping .inpaintTools value
    let strength ← readAmount .inpaintTools members "strength"
    let maskBlur ← readCount .inpaintTools members "maskBlur"
    let maskBlurOutset ← readCount .inpaintTools members "maskBlurOutset"
    let restoreOriginal ← readFlag .inpaintTools members "restoreOriginalAfterInpaint"
    return .inpaintTools strength maskBlur maskBlurOutset restoreOriginal
  | .xlMagic => do
    let members ← readMapping .xlMagic value
    let original ← readAmount .xlMagic members "original"
    let target ← readAmount .xlMagic members "target"
    let negative ← readAmount .xlMagic members "negative"
    return .xlMagic original target negative
  | .loopLoad => .loopLoad <$> readText .loopLoad value
  | .loopSave => .loopSave <$> readText .loopSave value
  | .generate => readBare .generate value

/-- The instruction that a wire object writes. -/
def ofWire : Json → Except DecodeFailure Instruction
  | .object [(key, value)] =>
    match Kind.ofKey? key with
    | some kind => ofPayload kind value
    | none => .error (.refused (.unknownKey key))
  | value => .error (.refused (.notSingleKey value))

/-- The instruction of a kind with its default parameters. -/
def defaultOf : Kind → Instruction
  | .note => .note ""
  | .loop => .loop 5 0
  | .loopEnd => .loopEnd
  | .stop => .stop
  | .prompt => .prompt ""
  | .negativePrompt => .negativePrompt ""
  | .config => .config {}
  | .frames => .frames 1
  | .canvasClear => .canvasClear
  | .canvasLoad => .canvasLoad ""
  | .canvasSave => .canvasSave "output.png"
  | .moveScale => .moveScale .zero .zero (.ofRat 1)
  | .adaptSize => .adaptSize 1024 1024
  | .crop => .crop
  | .moodboardClear => .moodboardClear
  | .moodboardCanvas => .moodboardCanvas
  | .moodboardAdd => .moodboardAdd ""
  | .moodboardRemove => .moodboardRemove 0
  | .moodboardWeights => .moodboardWeights []
  | .loopAddMoodboard => .loopAddMoodboard ""
  | .maskClear => .maskClear
  | .maskLoad => .maskLoad ""
  | .maskGet => .maskGet
  | .maskBackground => .maskBackground
  | .maskForeground => .maskForeground
  | .maskBody => .maskBody none none none none
  | .maskAsk => .maskAsk ""
  | .depthExtract => .depthExtract
  | .depthCanvas => .depthCanvas
  | .depthToCanvas => .depthToCanvas
  | .poseExtract => .poseExtract
  | .poseJson => .poseJson []
  | .removeBackground => .removeBackground
  | .faceZoom => .faceZoom
  | .askZoom => .askZoom ""
  | .inpaintTools => .inpaintTools none none none none
  | .xlMagic => .xlMagic none none none
  | .loopLoad => .loopLoad ""
  | .loopSave => .loopSave ""
  | .generate => .generate

end Instruction

end ImageWorkflow
