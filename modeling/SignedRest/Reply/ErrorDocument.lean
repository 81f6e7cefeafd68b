/-
The document in which the service tells what went wrong. Members that are not known are passed over,
whatever their values mean; a known one stands at most once.
-/

import SignedRest.Json.Reader

namespace SignedRest

/-- A member that is sent as a number or as a string, read as text. -/
def Json.Document.numberOrText? : Json.Document → Option (Option String)
  | .null => some none
  | .number literal => literal.number?.map (fun value => some value.toText)
  | .string pieces => (Json.piecesText? pieces).map some
  | _ => none

def Json.Document.text? : Json.Document → Option (Option String)
  | .null => some none
  | .string pieces => (Json.piecesText? pieces).map some
  | _ => none

structure ErrorDocument where
  code : Option String := none
  message : Option String := none
  requestId : Option String := none
deriving DecidableEq, Inhabited

namespace ErrorDocument

open Json (Document Piece piecesText?)

/-- The value of a member that stands at most once. -/
def member? (members : List (String × Document)) (name : String) : Option (Option Document) :=
  match members.filter (fun member => member.1 = name) with
  | [] => some none
  | [(_, value)] => some (some value)
  | _ => none

def read? (decode : Document → Option (Option String)) : Option Document → Option (Option String)
  | none => some none
  | some value => decode value

/-- An object with the members by name, or an array with their values in order. -/
def ofDocument? : Document → Option ErrorDocument
  | .object members => do
      let named ← members.mapM (fun member => (piecesText? member.1).map (·, member.2))
      let code ← read? Document.numberOrText? (← member? named "code")
      let message ← read? Document.text? (← member? named "message")
      let requestId ← read? Document.text? (← member? named "requestId")
      some { code, message, requestId }
  | .array items => do
      if items.length > 3 then none
      let code ← read? Document.numberOrText? items[0]?
      let message ← read? Document.text? items[1]?
      let requestId ← read? Document.text? items[2]?
      some { code, message, requestId }
  | _ => none

def ofBytes? (bytes : Bytes) : Option ErrorDocument :=
  (Document.ofBytes? bytes).bind ofDocument?

end ErrorDocument

end SignedRest
