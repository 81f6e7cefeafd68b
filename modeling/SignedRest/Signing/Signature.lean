/-
Signatures. A request is signed with a key made for it from the secret key, so that the secret
itself never leaves its owner; the headers tell who signed, when, for how long, and what.
-/

import SignedRest.Credentials
import SignedRest.Digest.Hmac
import SignedRest.Request
import SignedRest.Time.Timestamp

namespace SignedRest

structure SignOptions where
  timestamp : Option Timestamp := none
  expiration : Nat := 1800
  selection : Header.Selection := .default
deriving DecidableEq

structure Signature where
  authorization : String
  signature : String
  signedHeaders : List String
  timestamp : String
  expiration : Nat
  canonicalRequest : String
deriving DecidableEq, Inhabited

namespace Signing

def version : String := "bce-auth-v1"

/-- The host as a header names it: with the port, unless the scheme implies that. -/
def hostHeader (uri : Url) : Result String :=
  match uri.hostText? with
  | none => .error (.request (.noHost uri.toText))
  | some host =>
      .ok (match uri.port? with
        | some port => host ++ ":" ++ toString port
        | none => host)

/-- What the signing key is bound to. -/
def scope (credentials : Credentials) (timestamp : String) (expiration : Nat) : String :=
  version ++ "/" ++ credentials.accessKey ++ "/" ++ timestamp ++ "/" ++ toString expiration

/-- The request with the headers that have to be there before it is signed. -/
def prepare (request : Request) (credentials : Credentials) (host timestamp : String) : Request :=
  let hosted := request.setHeader Header.host host
  let tokened := match credentials.sessionToken with
    | some token => hosted.setHeader Header.securityToken token
    | none => hosted
  tokened.setHeader Header.signingDate timestamp

/-- The text that is signed, for the headers that are selected. -/
def canonicalRequest (request : Request) (selected : Fields) : String :=
  Canonical.request request.method (Canonical.path request.uri.path.toText)
    (Canonical.signedQuery request.parameters.entries) (Canonical.headers selected)

/-- The signature of a text under a key made from the secret key for its scope. -/
def compute (secretKey scope canonicalRequest : String) : String :=
  Hmac.hexDigest (Hmac.hexDigest secretKey scope) canonicalRequest

/-- Signs a request as of `now` unless the options name a time. The request that is answered has the
signature in its headers. -/
def sign (request : Request) (credentials : Credentials) (options : SignOptions) (now : Timestamp) :
    Result (Signature × Request) := do
  let host ← hostHeader request.uri
  let timestamp := (options.timestamp.getD now).signingText
  let prepared := prepare request credentials host timestamp
  let scope := scope credentials timestamp options.expiration
  let selected := Header.select options.selection prepared.headers.entries
  let canonical := canonicalRequest prepared selected
  let signature := compute credentials.secretKey scope canonical
  let authorization := scope ++ "/" ++ Text.joinText ";" selected.keys ++ "/" ++ signature
  return (
    { authorization, signature, timestamp
      signedHeaders := selected.keys
      expiration := options.expiration
      canonicalRequest := canonical },
    prepared.setHeader Header.authorization authorization)

end Signing

end SignedRest
