import ImageWorkflow.Text.Blank

/-!
# Failures of a generation provider

`ProviderError` : the failures that a provider reports, with their wording.  `ProviderError.isFatal`
: whether a run ends with the failure or goes on after it: it ends when the backend cannot be
reached or rejects the credentials.
-/

namespace ImageWorkflow

/-- A failure that a provider reports. -/
inductive ProviderError where
  /-- The backend cannot be reached. -/
  | connectionFailed (message : String)
  /-- The backend answered with a status that is no success. -/
  | requestFailed (status : Int) (body : String)
  | invalidResponse (message : String)
  | imageDecoding (message : String)
  | timeout (message : String)
  | toolNotSupported (tool provider : String)
  /-- A failure of no particular kind. -/
  | general (message : String)
  deriving DecidableEq, Repr

namespace ProviderError

/-- Whether a run ends with the failure. -/
def isFatal : ProviderError → Bool
  | .connectionFailed _ => true
  | .requestFailed status _ => status == 401 || status == 403
  | _ => false

/-- The most characters of a response body that a message quotes. -/
def quotedBodySize : Nat := 200

/-- The part of a response body that a message quotes. -/
def bodyDetail (body : String) : String :=
  if body = "" then "no response body"
  else String.ofList ((Text.strip body).toList.take quotedBodySize)

/-- The wording of a failure. -/
def message : ProviderError → String
  | .connectionFailed message | .invalidResponse message | .imageDecoding message
  | .timeout message | .general message => message
  | .requestFailed status body => s!"Request failed with status {status}: {bodyDetail body}"
  | .toolNotSupported tool provider =>
    s!"Tool '{tool}' is not supported" ++
      if provider = "" then "" else s!" by provider '{provider}'"

end ProviderError

end ImageWorkflow
