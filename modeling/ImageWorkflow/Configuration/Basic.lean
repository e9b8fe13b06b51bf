import ImageWorkflow.Configuration.Conversion
import ImageWorkflow.Settings.Request

/-!
# The configuration

`Configuration` : backend, working directory, generation defaults, logging and server, each with a
default.
* `Configuration.ofMembers` : the configuration that named values give, or every fault in them, in
  the order of the settings, unknown names last;
* `Configuration.toMembers` : the values in order;
* `Configuration.baseline` : the generation parameters to start from.
-/

namespace ImageWorkflow

/-- The configuration. -/
structure Configuration where
  transport : String := "http"
  providerHost : String := "127.0.0.1"
  providerPort : Int := 7860
  /-- The bearer token of the backend; empty for none. -/
  sharedSecret : String := ""
  /-- The seconds that a generation may take. -/
  requestTimeout : Binary64 := .ofRat 300
  /-- The seconds that connecting may take. -/
  connectionTimeout : Binary64 := .ofRat 5
  workingDirectory : String := "workflow_output"
  checksConnection : Bool := true
  width : Int := 1024
  height : Int := 1024
  steps : Int := 8
  guidanceScale : Binary64 := .ofRat 1
  sampler : String := "UniPC Trailing"
  shift : Binary64 := .ofRat 3
  seed : Int := -1
  seedMode : String := "Scale Alike"
  logLevel : String := "INFO"
  logsRequests : Bool := false
  requestLogPath : String := "logs/request_log.txt"
  serverHost : String := "0.0.0.0"
  serverPort : Int := 8000
  deriving DecidableEq, Repr

/-- A fault in the value with a name. -/
structure SettingFault where
  name : String
  fault : ValueFault
  deriving DecidableEq, Repr

namespace Configuration

/-- What a setting does with a value. -/
abbrev Reader := Json → Configuration → Except ValueFault Configuration

/-- An integer within bounds. -/
def integer (bounds : List Bound) (set : Configuration → Int → Configuration) : Reader :=
  fun value c => do
    return set c (← Bound.check bounds Bound.admits (← value.asInteger))

/-- A number within bounds. -/
def real (bounds : List Bound) (set : Configuration → Binary64 → Configuration) : Reader :=
  fun value c => do
    return set c (← Bound.check bounds Bound.admitsReal (← value.asReal))

/-- A truth value. -/
def flag (set : Configuration → Bool → Configuration) : Reader :=
  fun value c => return set c (← value.asFlag)

/-- A text. -/
def text (set : Configuration → String → Configuration) : Reader :=
  fun value c => return set c (← value.asText)

/-- A path. -/
def path (set : Configuration → String → Configuration) : Reader :=
  fun value c => return set c (← value.asPath)

/-- One of some words. -/
def word (choices : List String) (set : Configuration → String → Configuration) : Reader :=
  fun value c => return set c (← value.asWord choices)

/-- The ports there are, from `first` on. -/
def ports (first : Int) : List Bound := [.atMost 65535, .atLeast first]

/-- The sides that an image may have by default. -/
def sides : List Bound := [.atMost 4096, .atLeast 64]

/-- The settings by name, in order. -/
def readers : List (String × Reader) := [
  ("provider_transport", word ["http"] ({ · with transport := · })),
  ("provider_host", text ({ · with providerHost := · })),
  ("provider_port", integer (ports 1) ({ · with providerPort := · })),
  ("shared_secret", text ({ · with sharedSecret := · })),
  ("request_timeout", real [.above 0] ({ · with requestTimeout := · })),
  ("connection_timeout", real [.above 0] ({ · with connectionTimeout := · })),
  ("working_dir", path ({ · with workingDirectory := · })),
  ("check_connection_before_run", flag ({ · with checksConnection := · })),
  ("default_width", integer sides ({ · with width := · })),
  ("default_height", integer sides ({ · with height := · })),
  ("default_steps", integer [.atMost 150, .atLeast 1] ({ · with steps := · })),
  ("default_guidance_scale", real [.atLeast 0] ({ · with guidanceScale := · })),
  ("default_sampler", text ({ · with sampler := · })),
  ("default_shift", real [] ({ · with shift := · })),
  ("default_seed", integer [] ({ · with seed := · })),
  ("default_seed_mode", text ({ · with seedMode := · })),
  ("log_level", word ["DEBUG", "INFO", "WARNING", "ERROR"] ({ · with logLevel := · })),
  ("request_log_enabled", flag ({ · with logsRequests := · })),
  ("request_log_path", path ({ · with requestLogPath := · })),
  ("server_host", text ({ · with serverHost := · })),
  ("server_port", integer (ports 1024) ({ · with serverPort := · }))]

/-- The names of the settings, in order. -/
def names : List String := readers.map (·.1)

/-- Read one setting, if it is given. -/
def readSetting (given : Members) (acc : Configuration × List SettingFault)
    (setting : String × Reader) : Configuration × List SettingFault :=
  match given.get? setting.1 with
  | none => acc
  | some value =>
    match setting.2 value acc.1 with
    | .ok c => (c, acc.2)
    | .error fault => (acc.1, acc.2 ++ [⟨setting.1, fault⟩])

/-- The configuration that named values give. -/
def ofMembers (given : Members) : Except (List SettingFault) Configuration :=
  let (c, faults) := readers.foldl (readSetting given) ({}, [])
  let unknown := given.keys.filter fun name => !names.contains name
  match faults ++ unknown.map (⟨·, .unknownName⟩) with
  | [] => .ok c
  | faults => .error faults

/-- The values by name, in order. -/
def toMembers (c : Configuration) : Members := [
  ("provider_transport", .str c.transport), ("provider_host", .str c.providerHost),
  ("provider_port", .int c.providerPort), ("shared_secret", .str c.sharedSecret),
  ("request_timeout", .float c.requestTimeout), ("connection_timeout", .float c.connectionTimeout),
  ("working_dir", .str c.workingDirectory),
  ("check_connection_before_run", .bool c.checksConnection), ("default_width", .int c.width),
  ("default_height", .int c.height), ("default_steps", .int c.steps),
  ("default_guidance_scale", .float c.guidanceScale), ("default_sampler", .str c.sampler),
  ("default_shift", .float c.shift), ("default_seed", .int c.seed),
  ("default_seed_mode", .str c.seedMode), ("log_level", .str c.logLevel),
  ("request_log_enabled", .bool c.logsRequests), ("request_log_path", .str c.requestLogPath),
  ("server_host", .str c.serverHost), ("server_port", .int c.serverPort)]

/-- The address of the backend. -/
def baseUrl (c : Configuration) : String := s!"http://{c.providerHost}:{c.providerPort}"

/-- The generation parameters to start from. -/
def baseline (c : Configuration) : Generation :=
  { width := .whole c.width, height := .whole c.height, steps := .whole c.steps
    guidanceScale := .real c.guidanceScale, seed := .whole c.seed, seedMode := c.seedMode
    sampler := c.sampler, shift := .real c.shift }

end Configuration

end ImageWorkflow
