/-
Profiles: named settings that a file keeps. A profile is read from a table of its fields, or from an
array with their values in order; fields that are not known are passed over.
-/

import SignedRest.Config
import SignedRest.Toml.Reader

namespace SignedRest

structure Profile where
  name : String
  accessKey : String
  secretKey : String
  sessionToken : Option String := none
  region : String := defaultRegion
  protocol : Protocol := .http
  endpoint : Option String := none
  timeout : Option Timeout := none
deriving DecidableEq, Inhabited

namespace Profile

/-- Blank keys are found out here, not where the profile is kept. -/
def clientConfig (profile : Profile) : Result Config := do
  let credentials ← Credentials.make profile.accessKey profile.secretKey profile.sessionToken
  return { protocol := profile.protocol
           region := profile.region
           endpoint := profile.endpoint
           timeout := profile.timeout.getD {}
           credentials := some credentials }

/-! ### Reading -/

/-- A value by name in a table, by place in an array. A date has no fields. -/
def fieldOf? (value : Toml) : Option (String → Nat → Option Toml) :=
  match value with
  | .table members => some (fun name _ => Toml.member? members name)
  | .array items => some (fun _ place => items[place]?)
  | .datetime => some (fun _ _ => none)
  | _ => none

def text? : Toml → Option String
  | .text value => some value
  | _ => none

def milliseconds? : Toml → Option Nat
  | .integer value => if 0 ≤ value ∧ value < UInt64.size then some value.toNat else none
  | _ => none

/-- Nothing is there, or it reads. -/
def optional? {Value : Type} (decode : Toml → Option Value) : Option Toml → Option (Option Value)
  | none => some none
  | some value => (decode value).map some

def protocolNamed? (name : String) : Option Protocol :=
  if name = "http" then some .http else if name = "https" then some .https else none

/-- A protocol by its name, or as a table with its name over nothing. -/
def protocol? : Toml → Option Protocol
  | .text name => protocolNamed? name
  | .table [(name, .table [])] => protocolNamed? name
  | .table [(name, .array [])] => protocolNamed? name
  | _ => none

def timeout? (value : Toml) : Option Timeout := do
  let field ← fieldOf? value
  let base : Timeout := {}
  let connect ← optional? milliseconds? (field "connect_ms" 0)
  let read ← optional? milliseconds? (field "read_ms" 1)
  some ⟨connect.getD base.connect, read.getD base.read⟩

def ofValue? (value : Toml) : Option Profile := do
  let field ← fieldOf? value
  let name ← (field "name" 0).bind text?
  let accessKey ← (field "access_key" 1).bind text?
  let secretKey ← (field "secret_key" 2).bind text?
  let sessionToken ← optional? text? (field "session_token" 3)
  let region ← optional? text? (field "region" 4)
  let protocol ← optional? protocol? (field "protocol" 5)
  let endpoint ← optional? text? (field "endpoint" 6)
  let timeout ← optional? timeout? (field "timeout" 7)
  some { name, accessKey, secretKey, sessionToken, endpoint, timeout
         region := region.getD defaultRegion
         protocol := protocol.getD .http }

/-- A document that is one profile. -/
def ofText? (text : String) : Option Profile := do
  ofValue? (.table (← Toml.ofText? text))

/-! ### Writing -/

def line (name : String) (value : List Char) : List Char :=
  name.toList ++ " = ".toList ++ value ++ ['\n']

def textLine (name value : String) : List Char :=
  line name (Toml.writeText value)

def optionalLine (name : String) : Option String → List Char
  | some value => textLine name value
  | none => []

def timeoutLines (timeout : Timeout) : List Char :=
  "\n[profiles.timeout]\n".toList ++ line "connect_ms" (Nat.toDigits 10 timeout.connect) ++
    line "read_ms" (Nat.toDigits 10 timeout.read)

def lines (profile : Profile) : List Char :=
  "\n[[profiles]]\n".toList ++ textLine "name" profile.name ++
    textLine "access_key" profile.accessKey ++ textLine "secret_key" profile.secretKey ++
    optionalLine "session_token" profile.sessionToken ++ textLine "region" profile.region ++
    textLine "protocol" profile.protocol.scheme ++ optionalLine "endpoint" profile.endpoint ++
    (match profile.timeout with
      | some timeout => timeoutLines timeout
      | none => [])

end Profile

end SignedRest
