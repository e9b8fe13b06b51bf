import ImageWorkflow.Configuration.Conversion
import ImageWorkflow.Json.Encoded

/-!
# Bodies of requests

A body is the JSON text of an object with a workflow, `instructions`, and options for its run.
* `RunRequest.ofBody` : the request that a body is, or every fault of it (`BodyFault`);
* `BodyFault.toJson` : a fault's object: its code, where it is, its wording and the value at fault.
-/

namespace ImageWorkflow

/-- What is wrong with a body. -/
inductive BodyFault where
  /-- The text is no JSON. -/
  | malformed (fault : JsonFault) (position : Nat)
  /-- There is no body. -/
  | noBody
  | notAnObject (value : Json)
  /-- The object `body` has no member of the name. -/
  | noMember (name : String) (body : Members)
  | notAList (name : String) (value : Json)
  /-- A member cannot be converted. -/
  | badValue (name : String) (fault : ValueFault) (value : Json)

namespace BodyFault

/-- The object of a fault. -/
def object (code : String) (place : List Json) (message : String) (value : Json) : Members :=
  [("type", .str code), ("loc", .array (.str "body" :: place)), ("msg", .str message),
    ("input", value)]

/-- The code for what is missing. -/
def missingCode : String := "missing"

/-- The wording for what is missing. -/
def missingMessage : String := "Field required"

/-- The object of a fault. -/
def toJson : BodyFault → Json
  | malformed fault position =>
    .object (object "json_invalid" [.int position] "JSON decode error" (.object []) ++
      [("ctx", .object [("error", .str fault.message)])])
  | noBody => .object (object missingCode [] missingMessage .null)
  | notAnObject value =>
    .object (object "model_attributes_type" []
      "Input should be a valid dictionary or object to extract fields from" value)
  | noMember name body => .object (object missingCode [.str name] missingMessage (.object body))
  | notAList name value =>
    .object (object "list_type" [.str name] "Input should be a valid list" value)
  | badValue name fault value => .object (object fault.code [.str name] fault.message value)

end BodyFault

/-- Why a body is no request. -/
inductive BodyError where
  | faults (faults : List BodyFault)
  /-- The text cannot be read, though its grammar may be right. -/
  | unreadable

/-- A request to run a workflow. -/
structure RunRequest where
  instructions : List Json
  /-- Whether a workflow with errors is refused. -/
  enforcesValidation : Bool := true
  /-- Whether the connection is checked first; otherwise the configuration says so. -/
  checksConnection : Option Bool := none

namespace RunRequest

/-- The members of a body. -/
def members (text : String) : Except BodyError Members :=
  if text = "" then .error (.faults [.noBody])
  else
    match Json.parseEncoded text with
    | some (.ok (.object members)) => .ok members
    | some (.ok value) => .error (.faults [.notAnObject value])
    | some (.error (.malformed fault position)) => .error (.faults [.malformed fault position])
    | some (.error (.tooManyDigits _)) | none => .error .unreadable

/-- The items of the workflow. -/
def readInstructions (members : Members) : Except BodyFault (List Json) :=
  let name := "instructions"
  match members.get? name with
  | some (.array items) => .ok items
  | some value => .error (.notAList name value)
  | none => .error (.noMember name members)

/-- The truth value of an option that is given. -/
def readFlag (name : String) (value : Json) : Except BodyFault Bool :=
  value.asFlag.mapError fun fault => .badValue name fault value

/-- Whether validation is enforced. -/
def readEnforcement (members : Members) : Except BodyFault Bool :=
  let name := "enforce_validation"
  match members.get? name with
  | some value => readFlag name value
  | none => .ok true

/-- Whether the connection is checked, if that is said. -/
def readCheck (members : Members) : Except BodyFault (Option Bool) :=
  let name := "check_connection"
  match members.get? name with
  | some .null | none => .ok none
  | some value => (readFlag name value).map some

/-- The fault of something read, if there is one. -/
def faultOf {α : Type} : Except BodyFault α → List BodyFault
  | .ok _ => []
  | .error fault => [fault]

/-- The items of the workflow that a body has; its other members do not matter. -/
def workflowOfBody (text : String) : Except BodyError (List Json) := do
  (readInstructions (← members text)).mapError fun fault => .faults [fault]

/-- The request that a body is. -/
def ofBody (text : String) : Except BodyError RunRequest := do
  let members ← members text
  match readInstructions members, readEnforcement members, readCheck members with
  | .ok instructions, .ok enforcesValidation, .ok checksConnection =>
    return { instructions, enforcesValidation, checksConnection }
  | instructions, enforcement, check =>
    .error (.faults (faultOf instructions ++ faultOf enforcement ++ faultOf check))

end RunRequest

end ImageWorkflow
