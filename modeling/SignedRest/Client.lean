/-
Clients of a service. A client makes requests below its endpoint, gives them the headers that are
missing, signs them, sends each once, and reads what comes back.
-/

import SignedRest.Reply.Chain
import SignedRest.Service
import SignedRest.Signing.Signature

namespace SignedRest

/-- Signs a request with credentials, as of a time unless the options name another. -/
abbrev Signer := Request → Credentials → SignOptions → Timestamp → Result Request

def Signer.standard : Signer := fun request credentials options now =>
  (Signing.sign request credentials options now).map Prod.snd

/-- Sends a request and waits for the reply. -/
abbrev Transport := Request → Result Reply

/-- What the clock says when an invocation asks it, first for the date of the request and then for
the time of its signature. -/
structure Clock where
  dating : Timestamp
  signing : Timestamp
deriving DecidableEq, Inhabited

structure Client where
  service : Service
  endpoint : Url
  config : Config
  credentials : Credentials
  signer : Signer
  options : SignOptions
  handlers : List Handler

/-- What came of a request: what was sent, the reply after it was read, and what it told. -/
structure Invocation (Value : Type) where
  sent : List Request
  reply : Option Reply
  result : Result (Value × Metadata)

namespace Client

/-- Credentials are asked for before the endpoint is looked at. -/
def make (service : Service) (config : Config) : Result Client := do
  let credentials ← config.requireCredentials
  let endpoint ← service.endpoint config
  return { service, endpoint, config, credentials
           signer := Signer.standard
           options := {}
           handlers := Handler.standard }

/-- The first segment below every endpoint. -/
def apiVersion : String := "v1"

/-- The request for what is named by the elements below an endpoint, one segment for each. -/
def requestBelow (endpoint : Url) (method : String) (elements : List String) : Request :=
  let base := endpoint.path.dropEmptyEnd
  Request.make method
    { endpoint with path := (apiVersion :: elements).foldl Url.Path.push base }

/-- A request below the endpoint. Nothing is below an endpoint whose path is a text of its own. -/
def createRequest (client : Client) (method : String) (path : List String) : Result Request :=
  match client.endpoint.path with
  | .plain _ => .error (.endpoint (.notBase client.endpoint.toText))
  | .segments _ => .ok (requestBelow client.endpoint method path)

def defaultContentType : String := "application/json; charset=utf-8"

/-- The content type and the date stand only where the caller gave none; the user agent is always
the client's own. -/
def prepare (client : Client) (now : Timestamp) (request : Request) : Request :=
  let typed := if (request.header? Header.contentType).isSome then request
    else request.setHeader Header.contentType defaultContentType
  let dated := if (typed.header? Header.date).isSome then typed
    else typed.setHeader Header.date now.messageText
  dated.setHeader Header.userAgent client.config.userAgent

/-- The value of a payload. Without one it is the default. -/
def decodePayload {Value : Type} (decode : Json → Option Value) (default : Value) :
    Option Json → Result Value
  | none => .ok default
  | some payload =>
      match decode payload with
      | some value => .ok value
      | none => .error .json

/-- The request as it goes out: with the headers that were missing, and signed. -/
def outgoing (client : Client) (clock : Clock) (request : Request) : Result Request :=
  client.signer (client.prepare clock.dating request) client.credentials client.options
    clock.signing

/-- Signs a request, sends it if that succeeds, and decodes the reply. -/
def invoke {Value : Type} (client : Client) (decode : Json → Option Value) (default : Value)
    (transport : Transport) (clock : Clock) (request : Request) : Invocation Value :=
  match client.outgoing clock request with
  | .error cause => ⟨[], none, .error cause⟩
  | .ok signed =>
      match transport signed with
      | .error cause => ⟨[signed], none, .error cause⟩
      | .ok reply =>
          let (reply, outcome) := reply.process client.handlers
          ⟨[signed], some reply, do
            let findings ← outcome
            let value ← decodePayload decode default findings.payload
            return (value, findings.metadata)⟩

/-- A reply that needs to tell nothing: an object, or an array without items. -/
def decodeNothing : Json → Option Unit
  | .object _ => some ()
  | .array [] => some ()
  | _ => none

/-- A form for logs. -/
def describe (client : Client) : String :=
  "BceClient \x7b service: ServiceId(" ++ Text.quoted client.service.id.text ++ "), endpoint: " ++
    Text.quoted client.endpoint.toText ++ ", handlers: " ++ toString client.handlers.length ++
    ", .. \x7d"

end Client

end SignedRest
