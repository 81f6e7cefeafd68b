/-
Where the body of a message ends: after so many bytes, after the last of its chunks, or where the
connection closes.
-/

import SignedRest.Text.Separated
import SignedRest.Wire.Head

namespace SignedRest.Wire

inductive Framing where
  | counted (size : Nat)
  | chunks
  | untilClose
deriving DecidableEq, Inhabited

def transferEncoding : String := "transfer-encoding"

/-- The values of all fields of a name. -/
def Head.values (head : Head) (name : String) : List Bytes :=
  let found := head.fields.filter (fun field =>
    (Utf8.decodeText? field.name).any (fun text => text.toLower = name))
  found.map Field.value

/-- Two of the lengths that 64 bits can hold have a meaning of their own. -/
def greatestLength : Nat := UInt64.size - 3

def lengthPart? (text : String) : Option Nat :=
  let digits := (Text.trim text).toList
  if digits.isEmpty then none
  else (Number.ofChars? 10 digits).filter (· ≤ greatestLength)

/-- Lengths may be given more than once, but only the same. -/
def length? (values : List Bytes) : Option Nat := do
  let texts ← values.mapM valueText?
  match ← (texts.flatMap (Text.splitText ',')).mapM lengthPart? with
  | [] => none
  | first :: rest => if rest.all (· = first) then some first else none

/-- Whether the coding that was applied last cuts the body into chunks. -/
def endsInChunks (value : Bytes) : Bool :=
  (valueText? value).any (fun text =>
    (Text.splitText ',' text).getLast?.any (fun coding => (Text.trim coding).toLower = "chunked"))

/-- Some replies have no body, whatever their headers say. -/
def hasNoBody (method : String) (status : Nat) : Bool :=
  status = 101 || status = 204 || status = 304 || method = "HEAD" ||
    (method = "CONNECT" && status / 100 = 2)

/-- A coding goes before a length; the older version has no codings. Without either the body ends
with the connection. -/
def framing? (method : String) (head : Head) : Option Framing :=
  if hasNoBody method head.status then some (.counted 0)
  else match (head.values transferEncoding).getLast?, head.values Header.contentLength with
    | none, [] => some .untilClose
    | none, lengths => (length? lengths).map .counted
    | some coding, _ =>
        match head.version with
        | .v10 => none
        | .v11 => some (if endsInChunks coding then .chunks else .untilClose)

end SignedRest.Wire
