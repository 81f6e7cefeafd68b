/-
What can go wrong, and how it is told. Each family of errors lists the causes that the library
knows; `stated` is for those that a caller's own part of the work gives.
-/

import SignedRest.Url

namespace SignedRest

/-- An answer of the service that is no success. -/
structure ServiceError where
  code : Option String
  message : String
  requestId : Option String
  status : Nat
deriving DecidableEq, Inhabited

namespace ServiceError

/-- Whether the fault lies with the service rather than with the request. -/
def isServiceFault (error : ServiceError) : Bool :=
  500 ≤ error.status

/-- A request may be tried again when it was not at fault. -/
def isRetryable (error : ServiceError) : Bool :=
  error.isServiceFault

def toText (error : ServiceError) : String :=
  error.message ++ " (Status Code: " ++ toString error.status ++ "; Error Code: " ++
    error.code.getD "-" ++ "; Request ID: " ++ error.requestId.getD "-" ++ ")"

end ServiceError

inductive ConfigCause where
  | unknownProtocol (name : String)
  | newerFile (found supported : Nat)
  | stated (text : String)
deriving DecidableEq, Inhabited

def ConfigCause.message : ConfigCause → String
  | unknownProtocol name => "Unknown protocol: " ++ name
  | newerFile found supported => "Configuration file version " ++ toString found ++
      " is newer than supported version " ++ toString supported
  | stated text => text

inductive EndpointCause where
  | malformed (endpoint : String) (fault : Url.Fault)
  | unsupportedScheme (endpoint scheme : String)
  | missingHost (endpoint : String)
  | notBase (endpoint : String)
  | stated (text : String)
deriving DecidableEq, Inhabited

def EndpointCause.message : EndpointCause → String
  | malformed endpoint fault => endpoint ++ ": " ++ fault.message
  | unsupportedScheme endpoint scheme => endpoint ++ ": unsupported scheme '" ++ scheme ++ "'"
  | missingHost endpoint => endpoint ++ ": missing host"
  | notBase endpoint => endpoint ++ ": cannot be a base URL"
  | stated text => text

inductive ServiceIdCause where
  | malformed (id : String)
  | stated (text : String)
deriving DecidableEq, Inhabited

def ServiceIdCause.message : ServiceIdCause → String
  | malformed id => "'" ++ id ++ "': expected lowercase letters and digits, starting with a letter"
  | stated text => text

inductive CredentialsCause where
  | absent
  | blankAccessKey
  | blankSecretKey
  | blankSessionToken
  | incompleteEnvironment
  | stated (text : String)
deriving DecidableEq, Inhabited

def CredentialsCause.message : CredentialsCause → String
  | absent => "no credentials configured"
  | blankAccessKey => "access key should not be empty"
  | blankSecretKey => "secret key should not be empty"
  | blankSessionToken => "session token should not be empty"
  | incompleteEnvironment => "both BCE_ACCESS_KEY_ID and BCE_SECRET_ACCESS_KEY must be set"
  | stated text => text

inductive RequestCause where
  | noHost (uri : String)
  | headerName (name : String)
  | headerValue (name : String)
  | blankDomain
  | stated (text : String)
deriving DecidableEq, Inhabited

def RequestCause.message : RequestCause → String
  | noHost uri => "request URI has no host: " ++ uri
  | headerName name => "Invalid header name '" ++ name ++ "': invalid HTTP header name"
  | headerValue name => "Invalid value for header '" ++ name ++ "': failed to parse header value"
  | blankDomain => "domain name should not be empty"
  | stated text => text

inductive NetworkCause where
  | unsendable (url : String)
  | unanswered (url : String)
  | stated (text : String)
deriving DecidableEq, Inhabited

def NetworkCause.message : NetworkCause → String
  | unsendable url => "Request failed: builder error for url (" ++ url ++ ")"
  | unanswered url => "Request failed: error sending request for url (" ++ url ++ ")"
  | stated text => text

inductive Error where
  | config (cause : ConfigCause)
  | endpoint (cause : EndpointCause)
  | serviceId (cause : ServiceIdCause)
  | credentials (cause : CredentialsCause)
  | request (cause : RequestCause)
  | profileNotFound (name : String)
  | profileExists (name : String)
  | service (error : ServiceError)
  | network (cause : NetworkCause)
  | stream (text : String)
  | json
  | profileSyntax
  | profileOutput
deriving DecidableEq, Inhabited

namespace Error

def message : Error → String
  | config cause => "Configuration error: " ++ cause.message
  | endpoint cause => "Invalid endpoint: " ++ cause.message
  | serviceId cause => "Invalid service id: " ++ cause.message
  | credentials cause => "Invalid credentials: " ++ cause.message
  | request cause => "Invalid request: " ++ cause.message
  | profileNotFound name => "Profile not found: " ++ name
  | profileExists name => "Profile already exists: " ++ name
  | service error => error.toText
  | network cause => "Network error: " ++ cause.message
  | stream text => "IO error: " ++ text
  | json => "JSON error"
  | profileSyntax => "TOML parse error"
  | profileOutput => "TOML serialization error"

/-- Only an answer of the service has a status. -/
def status? : Error → Option Nat
  | service error => some error.status
  | _ => none

end Error

abbrev Result (Value : Type) := Except Error Value

end SignedRest
