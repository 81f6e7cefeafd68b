/-
Verification of a signature. A peer sees the method, the address and the headers of a request; all
that was signed is read back from there, and signed once more with the secret key.
-/

import SignedRest.Signing.Signature

namespace SignedRest.Signing

/-- A request as its peer sees it. -/
structure Arrival where
  method : String
  address : String
  headers : List (String × String)
deriving DecidableEq, Inhabited

/-- What an authorization says: the scope of the key, the names of the signed headers, the
signature. -/
structure Authorization where
  scope : List Char
  names : List Char
  signature : List Char
deriving DecidableEq, Inhabited

/-- The last two slashes divide an authorization. A scope has slashes of its own. -/
def Authorization.ofChars (text : List Char) : Authorization :=
  let (signature, front) := Text.cut '/' text.reverse
  let (names, scope) := Text.cut '/' (front.getD [])
  ⟨(scope.getD []).reverse, names.reverse, signature.reverse⟩

namespace Arrival

def authorization? (arrival : Arrival) : Option Authorization :=
  (arrival.headers.find? (fun header => header.1 = Header.authorization)).map
    (fun header => Authorization.ofChars header.2.toList)

/-- What follows the scheme's colon, two slashes, and the host. -/
def path (arrival : Arrival) : String :=
  let front := (Text.cut '?' arrival.address.toList).1
  String.ofList (((front.dropWhile (· ≠ ':')).drop 3).dropWhile (· ≠ '/'))

def parameterText (chars : List Char) : String :=
  String.ofList (Utf8.decodeLossy (Percent.decode (Utf8.encode chars)))

def parameter (item : List Char) : String × String :=
  let (key, value) := Text.cut '=' item
  (parameterText key, parameterText (value.getD []))

def parameters (arrival : Arrival) : List (String × String) :=
  match (Text.cut '?' arrival.address.toList).2 with
  | none | some [] => []
  | some query => (Text.split '&' query).map parameter

/-- The headers that the authorization names. -/
def selected (arrival : Arrival) (authorization : Authorization) : Fields :=
  let names := (Text.split ';' authorization.names).map String.ofList
  Header.select (Header.Selection.ofNames names) arrival.headers

def canonicalRequest (arrival : Arrival) (authorization : Authorization) : String :=
  Canonical.request arrival.method (Canonical.path arrival.path)
    (Canonical.signedQuery arrival.parameters) (Canonical.headers (arrival.selected authorization))

/-- The signature that the request ought to have: the code of its canonical form, under the key that
is the code of its scope. -/
def expected (arrival : Arrival) (secretKey : String) (authorization : Authorization) : String :=
  Hmac.hexDigest (Hmac.hexDigest secretKey (String.ofList authorization.scope))
    (arrival.canonicalRequest authorization)

def verifies (arrival : Arrival) (secretKey : String) : Bool :=
  arrival.authorization?.any (fun authorization =>
    String.ofList authorization.signature = arrival.expected secretKey authorization)

end Arrival

end SignedRest.Signing
