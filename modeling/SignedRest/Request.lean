/-
Requests before they are sent. Header names are kept in lower case, so that a name has one value in
whatever case it is written.
-/

import SignedRest.Error
import SignedRest.Json.Writer
import SignedRest.Signing.Canonical
import SignedRest.Url.Segments

namespace SignedRest

structure Request where
  method : String
  uri : Url
  headers : Fields
  parameters : Fields
  body : Option Bytes
deriving DecidableEq

namespace Request

/-- Spaces at the end of a plain path would be lost in a text without query and fragment. -/
def trimmedPath : Url.Path → Url.Path
  | .plain text => .plain (String.ofList (text.toList.reverse.dropWhile (· = ' ')).reverse)
  | path => path

/-- A query and a fragment of the address are dropped: parameters are kept on their own. -/
def make (method : String) (uri : Url) : Request :=
  { method
    uri := { uri with query := none, fragment := none, path := trimmedPath uri.path }
    headers := Table.empty
    parameters := Table.empty
    body := none }

def setHeader (request : Request) (name value : String) : Request :=
  { request with headers := request.headers.insert name.toLower value }

def header? (request : Request) (name : String) : Option String :=
  request.headers.get? name.toLower

def addParameter (request : Request) (key value : String) : Request :=
  { request with parameters := request.parameters.insert key value }

/-- The length goes into the headers. -/
def setBody (request : Request) (body : Bytes) : Request :=
  { request.setHeader Header.contentLength (toString body.length) with body := some body }

def setJson (request : Request) (value : Json) : Request :=
  request.setBody (Utf8.encodeText value.toText)

/-- The address with the parameters as its query. -/
def url (request : Request) : Url :=
  if request.parameters.isEmpty then request.uri
  else { request.uri with query := some (Canonical.query request.parameters.entries) }

end Request

end SignedRest
