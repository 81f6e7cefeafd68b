/-
The email service: what it knows about a sender's domain.
-/

import SignedRest.Client

namespace SignedRest.Ses

/-- The record of a domain that mail is sent from. -/
structure DomainRecord where
  name : String := ""
  status : Option String := none
  token : Option String := none
deriving DecidableEq, Inhabited

def textOrNone? : Json → Option (Option String)
  | .null => some none
  | .text value => some (some value)
  | _ => none

def numberOrText? : Json → Option (Option String)
  | .number value => some (some value.toText)
  | value => textOrNone? value

def text? : Json → Option String
  | .text value => some value
  | _ => none

/-- The value of a member, or its default where there is none. -/
def read? {Value : Type} (decode : Json → Option Value) (default : Value) :
    Option Json → Option Value
  | none => some default
  | some value => decode value

def recordOf? (name status token : Option Json) : Option DomainRecord := do
  let name ← read? text? "" name
  let status ← read? numberOrText? none status
  let token ← read? textOrNone? none token
  some { name, status, token }

/-- An object with the members by name, or an array with their values in order. -/
def decodeRecord : Json → Option DomainRecord
  | .object members =>
      let value := Json.object members
      recordOf? (value.member? "domainName") (value.member? "status") (value.member? "token")
  | .array items =>
      if items.length > 3 then none else recordOf? items[0]? items[1]? items[2]?
  | _ => none

/-- The record stands under `detail`, or alone in an array. -/
def decodeReply : Json → Option DomainRecord
  | .object members => read? decodeRecord {} ((Json.object members).member? "detail")
  | .array [] => some {}
  | .array [detail] => decodeRecord detail
  | _ => none

def serviceName : String := "ses"

def connect (config : Config) : Result Client := do
  let id ← ServiceId.ofText serviceName
  Client.make ⟨id, true⟩ config

/-- Asks for the record of a domain. -/
def verifiedDomain (client : Client) (transport : Transport) (clock : Clock) (domain : String) :
    Invocation DomainRecord :=
  if Text.isBlankText domain then ⟨[], none, .error (.request .blankDomain)⟩
  else match client.createRequest "GET" ["verifiedDomain", domain] with
    | .error cause => ⟨[], none, .error cause⟩
    | .ok request => client.invoke decodeReply {} transport clock request

end SignedRest.Ses
