/-
Services and the endpoints they are reached at.
-/

import SignedRest.Config
import SignedRest.Url.Reader

namespace SignedRest

def isServiceId (id : String) : Bool :=
  match id.toList with
  | [] => false
  | first :: rest => first.isLower && rest.all (fun c => c.isLower || c.isDigit)

/-- The name of a service: lower-case letters and digits, a letter first. -/
structure ServiceId where
  text : String
  valid : isServiceId text = true
deriving DecidableEq

def ServiceId.ofText (id : String) : Result ServiceId :=
  if valid : isServiceId id = true then .ok ⟨id, valid⟩
  else .error (.serviceId (.malformed id))

/-- A service is offered in each region, or once for all of them. -/
structure Service where
  id : ServiceId
  isRegional : Bool
deriving DecidableEq

namespace Service

def domain : String := "baidubce.com"

/-- The endpoint of an explicit text. -/
def readEndpoint (endpoint : String) : Result Url :=
  match Url.ofText endpoint with
  | .error fault => .error (.endpoint (.malformed endpoint fault))
  | .ok url =>
      if url.scheme ≠ "http" ∧ url.scheme ≠ "https" then
        .error (.endpoint (.unsupportedScheme endpoint url.scheme))
      else if url.hostText?.isNone then .error (.endpoint (.missingHost endpoint))
      else .ok url

def endpointText (service : Service) (config : Config) : String :=
  match config.endpoint with
  | some endpoint => endpoint
  | none =>
      let region := if service.isRegional then config.region ++ "." else ""
      config.protocol.scheme ++ "://" ++ service.id.text ++ "." ++ region ++ domain

def endpoint (service : Service) (config : Config) : Result Url :=
  readEndpoint (service.endpointText config)

end Service

end SignedRest
