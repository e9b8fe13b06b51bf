import ImageWorkflow.Configuration.Basic
import ImageWorkflow.Provider.Basic
import ImageWorkflow.Provider.RequestLog
import ImageWorkflow.Text.Base64
import ImageWorkflow.Web.Url

/-!
# The exchange with a web server

`Exchange` : where a web server is, what it will answer, what it was asked so far, and the log of
the requests.  `Exchange.send` : ask for something.  An answer is a response or a fault of the
transport (`TransportFault`), which is a failure of the call (`TransportFault.failure`).  What
cannot be sent at all is an error: a secret outside ASCII, and a number that is not finite.
-/

namespace ImageWorkflow

/-- The methods of requests. -/
inductive HttpMethod where
  | get
  | post
  deriving DecidableEq, Repr

/-- The word for a method. -/
def HttpMethod.word : HttpMethod → String
  | .get => "GET"
  | .post => "POST"

/-- A request. -/
structure HttpRequest where
  method : HttpMethod
  url : String
  /-- What the sender proves its identity with. -/
  authorization : Option String
  body : Option Members

/-- Why there is no response. -/
inductive TransportFault where
  /-- No connection was made in time. -/
  | connectTimeout
  /-- A part of the exchange took too long. -/
  | timeout
  /-- The transport failed in another way. -/
  | broken (message : String)
  /-- The response cannot be decoded. -/
  | undecodable (message : String)
  /-- The server keeps sending the request elsewhere. -/
  | tooManyRedirects (message : String)
  deriving DecidableEq, Repr

/-- The failure of a call by a fault of the transport; `address` is the server's, `path` that of
what was asked for.  The last two kinds of faults are none that a provider reports. -/
def TransportFault.failure (address path : String) : TransportFault → CallFailure
  | .connectTimeout => .reported (.connectionFailed s!"Timed out connecting to {address}")
  | .timeout => .reported (.timeout s!"Request to {path} timed out")
  | .broken message => .reported (.connectionFailed s!"Could not reach {address}: {message}")
  | .undecodable message => .other ⟨.decoding, message⟩
  | .tooManyRedirects message => .other ⟨.tooManyRedirects, message⟩

/-- What comes back for a request. -/
inductive HttpAnswer where
  | response (status : Int) (body : String)
  | fault (fault : TransportFault)
  deriving DecidableEq, Repr

/-- What a server will answer and was asked. -/
structure Exchange where
  /-- Where the server is. -/
  server : Web.Url
  /-- The answers in turn; the last one is for all further requests. -/
  answers : List HttpAnswer
  requests : List HttpRequest := []
  /-- The log of what is asked for, if there is one. -/
  log : Option RequestLog := none
  /-- The files that hold the log. -/
  files : FileTree := .empty
  /-- The time that is written into the log. -/
  now : String := ""

/-- The error about characters outside ASCII in the head of a request: the first of them, with those
that follow at once. -/
def asciiError? (head : String) : Option OtherError :=
  let isAscii (c : Char) : Bool := c.toNat < 128
  let start := (head.toList.takeWhile isAscii).length
  let complaint (what place : String) : Option OtherError :=
    some ⟨.encoding,
      s!"'ascii' codec can't encode {what} in position {place}: ordinal not in range(128)"⟩
  match (head.toList.drop start).takeWhile fun c => !isAscii c with
  | [] => none
  | [c] => complaint s!"character '{Text.codePointEscape c}'" (toString start)
  | run => complaint "characters" s!"{start}-{start + run.length - 1}"

/-- The proof of identity by name and password. -/
def passwordProof (name password : String) : String :=
  "Basic " ++ String.ofList (Base64.encode (Text.Utf8.encode s!"{name}:{password}"))

/-- The proof of identity that goes with a request, if there is one: name and password in the
address, or else the secret. -/
def Configuration.authorization (c : Configuration) (u : Web.Url) :
    Except OtherError (Option String) :=
  let bySecret := if c.sharedSecret = "" then none else some s!"Bearer {c.sharedSecret}"
  match bySecret.bind asciiError? with
  | some error => .error error
  | none =>
    if u.userName = "" ∧ u.password = "" then .ok bySecret
    else .ok (some (passwordProof u.userName u.password))

/-- The address of the server, with everything that it can be asked for below it. -/
def Configuration.server (c : Configuration) : Except Web.UrlFault Web.Url := do
  (← Web.Url.parse c.baseUrl).asDirectory

namespace Exchange

/-- The exchange with a server that gives some answers, with the log that a configuration asks for;
the name of the log is seen from `here`. -/
def start (c : Configuration) (files : FileTree) (here : FilePath) (answers : List HttpAnswer)
    (now : String) : Except Web.UrlFault Exchange := do
  let server ← c.server
  if c.logsRequests then
    match RequestLog.start (here.join c.requestLogPath) files with
    | (files, .ok log) => return { server, answers, log := some log, files, now }
    | (files, .error _) => return { server, answers, files, now }
  else return { server, answers, files, now }

/-- The answer to the request that has `k` before it. -/
def answer (e : Exchange) (k : Nat) : HttpAnswer :=
  (e.answers[min k (e.answers.length - 1)]?).getD (.response 200 "")

/-- The request for something, or why it cannot be sent. -/
def request (c : Configuration) (e : Exchange) (method : HttpMethod) (path : String)
    (body : Option Members) : Except OtherError HttpRequest := do
  let url ← (e.server.resolve path).mapError fun fault => ⟨.address, fault.message⟩
  let authorization ← c.authorization url
  if (body.map fun members => (Json.object members).isFinite).getD true then
    return { method, url := url.text, authorization, body }
  else .error .unsendable

/-- Ask for something. -/
def send (c : Configuration) (e : Exchange) (method : HttpMethod) (path : String)
    (body : Option Members) : Except OtherError HttpAnswer × Exchange :=
  match e.request c method path body with
  | .error error => (.error error, e)
  | .ok request =>
    (.ok (e.answer e.requests.length), { e with requests := e.requests ++ [request] })

/-- Write a request into the log, if there is one. -/
def note (e : Exchange) (path : String) (body : Members) : Exchange :=
  match e.log with
  | none => e
  | some log =>
    match log.append e.files path body e.now with
    | .ok files => { e with files }
    | .error _ => e

end Exchange

end ImageWorkflow
