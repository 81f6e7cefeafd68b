/-
Requests as they are sent. The user in the address becomes a header, and so do the host and the size
of the body.
-/

import SignedRest.Request
import SignedRest.Text.Base64
import SignedRest.Wire.Chunked
import SignedRest.Wire.Framing

namespace SignedRest.Wire

/-- What the other side receives. -/
structure Message where
  requestLine : String
  headers : Fields
  body : Bytes
deriving DecidableEq

def insertNew (headers : Fields) (name value : String) : Fields :=
  if headers.contains name then headers else headers.insert name value

/-! ### The address -/

/-- A user in the address asks for access by name and password. -/
def basicAuthorization (authority : Url.Authority) : Option String := do
  let name ← Utf8.decodeText? (Percent.decodeText authority.username)
  let password := authority.password.bind (fun word => Utf8.decodeText? (Percent.decodeText word))
  if name.isEmpty ∧ password.isNone then none
  let pair := Utf8.encodeText (name ++ ":" ++ password.getD "")
  some ("Basic " ++ String.ofList (Base64.encode pair))

/-- The address without the user. -/
def withoutUser (url : Url) : Url :=
  { url with authority := url.authority.map (fun authority =>
      match basicAuthorization authority with
      | some _ => { authority with username := "", password := none }
      | none => authority) }

def hostOf (url : Url) : String :=
  url.hostText?.getD "" ++ match url.port? with
    | some port => ":" ++ toString port
    | none => ""

/-- A tunnel is asked for by authority, anything else by path. -/
def target (method : String) (url : Url) : String :=
  if method = "CONNECT" then ((withoutUser url).authority.map Url.Authority.toText).getD ""
  else url.path.toText ++ match url.query with
    | some query => "?" ++ query
    | none => ""

def greatestAddressLength : Nat := 65534

/-- Some characters that a host may have are not sent. -/
def isSentInHost (c : Char) : Bool :=
  ['"', '\x60', '\x7b', '\x7d'].all (· ≠ c)

def isSendable (url : Url) : Bool :=
  (url.scheme = "http" || url.scheme = "https") &&
    url.hostText?.any (fun host => host.toList.all isSentInHost) &&
    decide ((withoutUser url).toText.length ≤ greatestAddressLength)

/-! ### The body -/

/-- A body is sent in chunks if the headers speak of a coding, and with its length otherwise. Where
there is nothing to send no coding is applied. -/
def framed (headers : Fields) (body : Bytes) : Fields × Bytes :=
  if body.isEmpty then (headers.erase transferEncoding, [])
  else match headers.get? transferEncoding with
    | none => (insertNew headers Header.contentLength (toString body.length), body)
    | some coding =>
        let unsized := headers.erase Header.contentLength
        let last := if endsInChunks (Utf8.encodeText coding) then coding else coding ++ ", chunked"
        (unsized.insert transferEncoding last, chunked body)

def messageOf (request : Request) (given : Fields) : Message :=
  let url := request.url
  let asked := match url.authority.bind basicAuthorization with
    | some value => insertNew given Header.authorization value
    | none => given
  let (headers, body) := framed asked (request.body.getD [])
  { requestLine := request.method ++ " " ++ target request.method url ++ " HTTP/1.1"
    headers := insertNew (insertNew headers "accept" "*/*") Header.host (hostOf url)
    body }

/-- A request in the form in which it is sent. Headers are looked at before the address. -/
def message (request : Request) : Attempt Message :=
  (headerMap request.headers.entries).map (fun handed => do
    let given ← handed
    if isSendable request.url then .ok (messageOf request given)
    else .error (.network (.unsendable (withoutUser request.url).toText)))

end SignedRest.Wire
