/-
The bytes of HTTP. Names are made of token bytes, values of printable bytes and tabs. A header that
cannot be written with these is refused before anything is sent; too many headers are not even
refused.
-/

import SignedRest.Error
import SignedRest.Header
import SignedRest.Text.Utf8

namespace SignedRest.Wire

/-- Letters, digits and some marks make up the names of headers and methods. -/
def isTokenByte (byte : UInt8) : Bool :=
  (48 ≤ byte && byte ≤ 57) || (65 ≤ byte && byte ≤ 90) || (97 ≤ byte && byte ≤ 122) ||
    "!#$%&'*+-.^_\x60|~".toList.contains (Char.ofNat byte.toNat)

def isToken (bytes : Bytes) : Bool :=
  !bytes.isEmpty && bytes.all isTokenByte

def greatestNameLength : Nat := 65535

def isName (bytes : Bytes) : Bool :=
  isToken bytes && decide (bytes.length ≤ greatestNameLength)

def isHeaderName (name : String) : Bool :=
  isName (Utf8.encodeText name)

def isValueByte (byte : UInt8) : Bool :=
  byte == 0x09 || (0x20 ≤ byte && byte ≠ 0x7F)

def isHeaderValue (value : String) : Bool :=
  (Utf8.encodeText value).all isValueByte

def isSpace (byte : UInt8) : Bool :=
  byte == 0x20 || byte == 0x09

/-- What a value says, if it is printable ASCII and tabs. -/
def valueText? (value : Bytes) : Option String :=
  if value.all (fun byte => isValueByte byte && byte < 0x7F) then Utf8.decodeText? value else none

/-- The headers in the order of their names, or the first that cannot be sent. The name of a header
is looked at before its value. -/
def headerBlock : List (String × String) → Result (List (String × String))
  | [] => .ok []
  | (name, value) :: rest =>
      if !isHeaderName name then .error (.request (.headerName name))
      else if !isHeaderValue value then .error (.request (.headerValue name))
      else (headerBlock rest).map ((name, value) :: ·)

/-- Work that has a result, or breaks off without one. -/
abbrev Attempt (Value : Type) := Option (Result Value)

/-- A map of headers has 2 ^ 15 places at most, and keeps a quarter of them free. -/
def greatestHeaderCount : Nat := 24576

/-- The headers as they are handed over. Names are folded to lower case, and of several headers with
one name the last remains. The map is made for all of them before the first is looked at; where they
are too many the work breaks off, and not even an error is told. -/
def headerMap (fields : List (String × String)) : Attempt Fields :=
  if greatestHeaderCount < fields.length then none
  else some ((headerBlock fields).map (fun block =>
    Table.ofList (block.map (fun field => (field.1.toLower, field.2)))))

end SignedRest.Wire
