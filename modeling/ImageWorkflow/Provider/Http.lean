import ImageWorkflow.Image.Text
import ImageWorkflow.Instruction.Catalogue
import ImageWorkflow.Json.Encoded
import ImageWorkflow.Provider.Catalogue
import ImageWorkflow.Provider.Exchange

/-!
# A provider behind a web server

`HttpProvider.provider` : the provider that a configuration describes.  Images travel as text, so
each is encoded for the request and decoded from the response; references of the moodboard do not
travel.  There are no image tools.
* `HttpProvider.requestMembers` : what is sent for a generation;
* `HttpProvider.imagesOf` : the images of a response, those that cannot be decoded left out;
* `HttpProvider.generate` : a generation from beginning to end.
-/

namespace ImageWorkflow.HttpProvider

/-- The name of the provider. -/
def name : String := "http"

/-- What the provider says it is. -/
def description : String := "Draw Things HTTP API (A1111-compatible)"

/-- The description's object. -/
def info (c : Configuration) : Members :=
  [("name", .str name), ("description", .str description), ("base_url", .str c.baseUrl),
    ("authenticated", .bool (c.sharedSecret ≠ ""))]

/-- The path that tells whether the server is there. -/
def optionsPath : String := "/sdapi/v1/options"

/-- The path of a generation: with an image to start from or without one. -/
def generatePath (call : GenerateCall) : String :=
  if call.source.isSome then "/sdapi/v1/img2img" else "/sdapi/v1/txt2img"

/-- The status of a response that has what was asked for. -/
def successStatus : Int := 200

/-- Whether the server answers. -/
def checkConnection (c : Configuration) (e : Exchange) : Except OtherError Bool × Exchange :=
  match e.send c .get optionsPath none with
  | (.ok (.response status _), e) => (.ok (status == successStatus), e)
  | (.ok (.fault _), e) => (.ok false, e)
  | (.error error, e) => (.error error, e)

/-! ## What is sent -/

/-- The text of an image, or why it has none. -/
def imageText (i : Image) : Except OtherError Json :=
  match i.toText with
  | .ok text => .ok (.str text)
  | .error fault =>
    .error ⟨(match fault with
      | .mode _ => .system
      | .empty => .value), fault.message⟩

/-- What is sent for a generation. -/
def requestMembers (call : GenerateCall) : Except OtherError Members := do
  let plain := call.parameters.requestBody call.prompt
  let members ← match call.source with
    | none => pure plain
    | some image =>
      pure ((plain.insert "init_images" (.array [← imageText image])).insert
        "denoising_strength" call.parameters.strength.toJson)
  match call.mask with
  | none => return members
  | some mask => return members.insert "mask" (← imageText mask)

/-! ## What comes back -/

/-- The failure of a call by a text that is no image.  Data that name a piece wrongly, or have too
many pixels, are none that a provider reports. -/
def failureOfText (fault : ImageTextFault) : CallFailure :=
  match fault with
  | .data (.brokenName _) => .other ⟨.format, fault.detail⟩
  | .data (.tooManyPixels _) => .other ⟨.size, fault.detail⟩
  | _ => .reported (.imageDecoding fault.message)

/-- The image that a text is. -/
def imageOf (text : String) : Except CallFailure Image :=
  (Image.ofText text).mapError failureOfText

/-- The images among the texts of a list, in order. -/
def decodable : List Json → Except CallFailure (List Image)
  | [] => .ok []
  | .str text :: rest =>
    match imageOf text with
    | .ok image => (decodable rest).map (image :: ·)
    | .error (.reported _) => decodable rest
    | .error failure => .error failure
  | _ :: rest => decodable rest

/-- The images of a response's value: those of the list `images`, or the one that is `image`. -/
def imagesOf : Json → Except CallFailure (List Image)
  | .object m =>
    match Members.items? m "images", Members.text? m "image" with
    | some items, _ =>
      match decodable items with
      | .ok [] => .error (.reported (.imageDecoding "Response contained no decodable images"))
      | images => images
    | none, some text => (imageOf text).map ([·])
    | none, none => .error (.reported (.invalidResponse "Response has no 'images' field"))
  | _ => .error (.reported (.invalidResponse "Response is not a JSON object"))

/-- The value of a response with success, or the failure that the response is; `complaint` is about
a text that is no JSON. -/
def valueOf (complaint : String) (status : Int) (body : String) : Except ProviderError Json :=
  if status ≠ successStatus then .error (.requestFailed status body)
  else
    match Json.parseEncoded body with
    | some (.ok value) => .ok value
    | _ => .error (.invalidResponse complaint)

/-- The images of a response. -/
def imagesOfResponse (status : Int) (body : String) : Except CallFailure (List Image) := do
  imagesOf (← (valueOf "Response is not valid JSON" status body).mapError .reported)

/-! ## Calls -/

/-- The number of steps that progress is reported of. -/
def stepCount (g : Generation) : Int :=
  match g.steps with
  | .whole n => n
  | .real x => (x.toRat?.map Rat.floor).getD 0

/-- Ask for images once the request is made up. -/
def sendGeneration (c : Configuration) (e : Exchange) (call : GenerateCall) (members : Members) :
    Reply (List Image) × Exchange :=
  let path := generatePath call
  let e := e.note path members
  let begun : List Progress :=
    [{ stage := .starting }, { stage := .sampling, totalSteps := stepCount call.parameters }]
  match e.send c .post path (some members) with
  | (.error error, e) => ({ progress := begun, result := .error (.other error) }, e)
  | (.ok (.fault fault), e) =>
    ({ progress := begun, result := .error (fault.failure c.baseUrl path) }, e)
  | (.ok (.response status body), e) =>
    let decoding : List Progress :=
      if status = successStatus then begun ++ [{ stage := .decoding }] else begun
    match imagesOfResponse status body with
    | .error failure => ({ progress := decoding, result := .error failure }, e)
    | .ok images =>
      ({ progress := decoding ++ [{ stage := .complete }], result := .ok images }, e)

/-- A generation. -/
def generate (c : Configuration) (e : Exchange) (call : GenerateCall) :
    Reply (List Image) × Exchange :=
  match requestMembers call with
  | .error error => ({ progress := [{ stage := .starting }], result := .error (.other error) }, e)
  | .ok members => sendGeneration c e call members

/-- What comes of asking for an image tool: there is none. -/
def applyTool (tool : String) : Reply ToolResult :=
  { result := .error (.reported (.toolNotSupported tool name)) }

/-- The entries of a catalogue. -/
def fetch (c : Configuration) (e : Exchange) (catalogue : Catalogue) :
    Except CallFailure (List CatalogueEntry) × Exchange :=
  match e.send c .get catalogue.path none with
  | (.error error, e) => (.error (.other error), e)
  | (.ok (.fault fault), e) => (.error (fault.failure c.baseUrl catalogue.path), e)
  | (.ok (.response status body), e) =>
    match valueOf s!"{catalogue.path} did not return JSON" status body with
    | .error error => (.error (.reported error), e)
    | .ok value => (.ok (catalogue.entries value), e)

/-- The provider that a configuration describes. -/
def provider (c : Configuration) : Provider Exchange where
  name := name
  info := info c
  checkConnection := checkConnection c
  generate := generate c
  applyTool := fun e call => (applyTool call.tool.key, e)
  models := fun e => fetch c e .models
  loras := fun e => fetch c e .loras

end ImageWorkflow.HttpProvider
