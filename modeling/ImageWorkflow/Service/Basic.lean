import ImageWorkflow.Engine.Run
import ImageWorkflow.Service.Body
import ImageWorkflow.Service.Report
import ImageWorkflow.Service.Turn
import ImageWorkflow.Web.Url
import ImageWorkflow.Workflow.Support

/-!
# The service

`Service σ` : an engine behind a web server, with a provider of memory `σ`.  It tells about itself
and the instructions there are, validates workflows and runs them, one at a time.
* `Endpoint` : what can be asked for, each under a method and a path;
* `Service.respond` : the response to a request and the service afterwards, or the error that broke
  the request off (`ServiceError`).
-/

namespace ImageWorkflow

/-- What can be asked for. -/
inductive Endpoint where
  /-- Whether service and provider are there. -/
  | health
  /-- The instructions there are. -/
  | instructions
  | validate
  /-- How much of a workflow can be run. -/
  | analyze
  | run
  /-- Cancellation of the run that is going on. -/
  | cancel
  | models
  | loras
  deriving DecidableEq, Repr

namespace Endpoint

/-- Every endpoint. -/
def all : List Endpoint := [health, instructions, validate, analyze, run, cancel, models, loras]

/-- The path of an endpoint. -/
def path : Endpoint → String
  | health => "/api/health"
  | instructions => "/api/instructions"
  | validate => "/api/workflows/validate"
  | analyze => "/api/workflows/analyze"
  | run => "/api/workflows/run"
  | cancel => "/api/workflows/cancel"
  | models => "/api/provider/models"
  | loras => "/api/provider/loras"

/-- The method of an endpoint. -/
def method : Endpoint → String
  | health | instructions | models | loras => "GET"
  | validate | analyze | run | cancel => "POST"

/-- The endpoint with a path; a line feed may end it. -/
def ofPath? (path : String) : Option Endpoint :=
  all.find? fun endpoint => path == endpoint.path || path == endpoint.path ++ "\n"

/-- A path without the slashes at its end. -/
def withoutEndSlashes (path : String) : String :=
  String.ofList (path.toList.reverse.dropWhile (· = '/')).reverse

/-- The endpoint that a path leads to, which may be another path with slashes behind it. -/
def reached? (path : String) : Option Endpoint :=
  (ofPath? path).or (ofPath? (withoutEndSlashes path))

end Endpoint

/-- A response. -/
structure Response where
  status : Nat
  body : Json

namespace Response

/-- The response to what could be done. -/
def success (body : Members) : Response := ⟨200, .object body⟩

/-- The response to what could not be done, with details. -/
def refusal (status : Nat) (detail : Json) : Response := ⟨status, .object [("detail", detail)]⟩

/-- The response to a body that is no request. -/
def ofBodyError : BodyError → Response
  | .faults faults => refusal 422 (.array (faults.map BodyFault.toJson))
  | .unreadable => refusal 400 (.str "There was an error parsing the body")

end Response

/-- An error that breaks a request off. -/
inductive ServiceError where
  /-- An item of the workflow holds a number that cannot be read. -/
  | decoding (cause : DecodeFailure)
  /-- The provider's call failed in a way that no provider reports. -/
  | call (failure : CallFailure)
  /-- There is no report of the run, for a reason other than those foreseen. -/
  | refused (refusal : RunRefusal)
  /-- The run was given up by whoever awaited it. -/
  | abandoned
  /-- The response has a number that cannot be sent. -/
  | unsendable
  /-- What is asked for has no address. -/
  | address (fault : Web.UrlFault)

/-- An engine behind a web server. -/
structure Service (σ : Type) where
  engine : Engine σ
  files : FileTree
  memory : σ
  /-- What times and names are written into reports. -/
  stamps : Stamps
  /-- The turn that was taken last. -/
  turn : Option Turn := none

/-- What comes of a request, before and after the change it makes. -/
abbrev Handling (σ : Type) := Except ServiceError Response × Service σ

namespace Service
variable {σ : Type}

/-- The version that the service tells. -/
def version : String := "0.3.0"

/-- Whether service and provider are there. -/
def health (s : Service σ) : Handling σ :=
  match s.engine.provider.checkConnection s.memory with
  | (.error error, memory) => (.error (.call (.other error)), { s with memory })
  | (.ok connected, memory) =>
    (.ok (.success [("status", .str "ok"), ("version", .str version),
      ("provider", .object s.engine.provider.info), ("connected", .bool connected)]),
      { s with memory })

/-- An instruction in the list of those there are. -/
def instructionObject (kind : Kind) : Json :=
  .object [("key", .str kind.key), ("title", .str kind.title),
    ("category", .str kind.category.title), ("icon", .str kind.icon),
    ("support", .str kind.support.word), ("reason", .str kind.supportReason)]

/-- The instructions there are. -/
def instructions : Response :=
  .success [("instructions", .array (Kind.all.map instructionObject)),
    ("count", .int Kind.all.length)]

/-- The report on a workflow. -/
def validate (items : List Json) : Except ServiceError Response :=
  match Workflow.validatePayload (.array items) with
  | .ok (_, report) => .ok ⟨200, report.toJson⟩
  | .error cause => .error (.decoding cause)

/-- How much of a workflow can be run. -/
def analysis (w : Workflow) : Response :=
  let c := w.support
  .success [("total", .int c.total), ("full", .int c.full), ("partial", .int c.partially),
    ("unsupported", .int c.unsupported), ("is_fully_supported", .bool c.isFullySupported),
    ("has_generation_trigger", .bool c.hasTrigger),
    ("counts", .object (w.counts.map fun entry => (entry.1, .int entry.2)))]

/-- How much of a workflow can be run, or the report on a workflow that cannot be decoded. -/
def analyze (items : List Json) : Except ServiceError Response :=
  match Workflow.validatePayload (.array items) with
  | .ok (some w, _) => .ok (analysis w)
  | .ok (none, report) => .ok (.refusal 422 report.toJson)
  | .error cause => .error (.decoding cause)

/-- Run a workflow in a turn of its own. -/
def perform (s : Service σ) (turn : Turn) (w : Workflow) (validation : Report)
    (checksConnection : Option Bool) : Handling σ :=
  match Session.run { files := s.files, memory := s.memory } s.engine w checksConnection with
  | (session, .error refusal) =>
    let s := { s with
      files := session.files, memory := session.memory
      turn := Turn.settle (some turn) turn.number session.status }
    match refusal with
    | .workingDirectory _ (.fault ..) => (.ok (.refusal 500 (.str refusal.message)), s)
    | refusal => (.error (.refused refusal), s)
  | (session, .ok r) =>
    let s := { s with
      files := session.files, memory := session.memory
      turn := Turn.settle (some turn) turn.number session.status }
    if r.ending = .abandoned then (.error .abandoned, s)
    else
      (.ok (.success [("validation", validation.toJson),
        ("result", (r.report w).toJson s.stamps)]), s)

/-- Run a workflow, unless it has faults or another run is going on. -/
def run (s : Service σ) (request : RunRequest) : Handling σ :=
  match Workflow.validatePayload (.array request.instructions) with
  | .error cause => (.error (.decoding cause), s)
  | .ok (none, report) => (.ok (.refusal 422 report.toJson), s)
  | .ok (some w, report) =>
    if request.enforcesValidation && !report.isValid then (.ok (.refusal 422 report.toJson), s)
    else
      match Turn.start? s.turn with
      | none => (.ok (.refusal 409 (.str "A workflow is already running")), s)
      | some turn => s.perform turn w report request.checksConnection

/-- Request cancellation of the run that is going on. -/
def cancel (s : Service σ) : Handling σ :=
  let (turn, cancelled) := Turn.requestCancel s.turn
  (.ok (.success [("cancelled", .bool cancelled)]), { s with turn })

/-- The object of an entry of a catalogue. -/
def entryObject (e : CatalogueEntry) : Json :=
  .object [("name", e.displayName), ("filename", e.filename)]

/-- A catalogue of the provider's, under the name `key`. -/
def catalogue (key : String) : Except CallFailure (List CatalogueEntry) →
    Except ServiceError Response
  | .ok entries => .ok (.success [(key, .array (entries.map entryObject))])
  | .error (.reported error) => .ok (.refusal 502 (.str error.message))
  | .error failure => .error (.call failure)

/-- Answer with what a body that can be read gives. -/
def withBody {α : Type} (body : Except BodyError α) (answer : α → Except ServiceError Response) :
    Except ServiceError Response :=
  match body with
  | .error error => .ok (.ofBodyError error)
  | .ok request => answer request

/-- What comes of asking for something. -/
def handle (s : Service σ) (endpoint : Endpoint) (body : String) : Handling σ :=
  match endpoint with
  | .health => s.health
  | .instructions => (.ok instructions, s)
  | .validate => (withBody (RunRequest.workflowOfBody body) validate, s)
  | .analyze => (withBody (RunRequest.workflowOfBody body) analyze, s)
  | .run =>
    match RunRequest.ofBody body with
    | .error error => (.ok (.ofBodyError error), s)
    | .ok request => s.run request
  | .cancel => s.cancel
  | .models =>
    let (entries, memory) := s.engine.provider.models s.memory
    (catalogue "models" entries, { s with memory })
  | .loras =>
    let (entries, memory) := s.engine.provider.loras s.memory
    (catalogue "loras" entries, { s with memory })

/-- A response that can be sent: what could be done is told without numbers that are not finite. -/
def sendable (response : Response) : Except ServiceError Response :=
  if response.status = 200 then .ok { response with body := response.body.withoutInfinities }
  else if response.body.isFinite then .ok response
  else .error .unsendable

/-- The response as the method has it: one asks for the head of a response only. -/
def forMethod (method : String) (response : Response) : Response :=
  if method = "HEAD" then { response with body := .null } else response

/-- The address of the service, as far as its responses depend on it. -/
def address : Web.Url := { scheme := "http", host := "service" }

/-- The path that a reference leads to, written bytes read; what they write may be written so
again. -/
def pathOf (reference : String) : Except Web.UrlFault String := do
  let u ← address.resolve reference
  return Web.Percent.decode (Web.Percent.decode (if u.path = "" then "/" else u.path))

/-- The response to a request for a path. -/
def respondAt (s : Service σ) (method path body : String) : Handling σ :=
  match Endpoint.reached? path with
  | none => (.ok (.refusal 404 (.str "Not Found")), s)
  | some endpoint =>
    if endpoint.method ≠ method then (.ok (.refusal 405 (.str "Method Not Allowed")), s)
    else s.handle endpoint body

/-- The response to a request for what a reference leads to. -/
def respond (s : Service σ) (method reference body : String) : Handling σ :=
  match pathOf reference with
  | .error fault => (.error (.address fault), s)
  | .ok path =>
    let method := method.map Char.toUpper
    let (response, s) := s.respondAt method path body
    ((response.bind sendable).map (forMethod method), s)

end Service

end ImageWorkflow
