/-
The canonical form of a request: one text for all spellings of the same method, path, parameters and
headers. Each component is percent-encoded down to unreserved characters, so none of them can hold
the separators that stand between them.
-/

import SignedRest.Header
import SignedRest.Text.Percent
import SignedRest.Text.Separated

namespace SignedRest.Canonical

/-- Letters, digits and `-_.~` stand for themselves. -/
def isUnreserved (byte : UInt8) : Bool :=
  (48 ≤ byte && byte ≤ 57) || (65 ≤ byte && byte ≤ 90) || (97 ≤ byte && byte ≤ 122) ||
    byte == 45 || byte == 46 || byte == 95 || byte == 126

def normalize (text : String) : String :=
  Percent.encodeText isUnreserved text

/-- The text that a path segment denotes; bytes that are no UTF-8 become replacement characters. -/
def segmentText (segment : List Char) : List Char :=
  Utf8.decodeLossy (Percent.decode (Utf8.encode segment))

def segment (raw : List Char) : List Char :=
  Percent.encode isUnreserved (Utf8.encode (segmentText raw))

def path (raw : String) : String :=
  let encoded := Text.join '/' ((Text.split '/' raw.toList).map segment)
  String.ofList (match encoded with
    | '/' :: _ => encoded
    | _ => '/' :: encoded)

def pairBefore (left right : String × String) : Bool :=
  left.1 < right.1 || (left.1 = right.1 && left.2 ≤ right.2)

/-- Parameters in the order of their encoded keys, then of their encoded values. -/
def encodedPairs (parameters : List (String × String)) : List (String × String) :=
  (parameters.map (fun pair => (normalize pair.1, normalize pair.2))).mergeSort pairBefore

def query (parameters : List (String × String)) : String :=
  Text.joinText "&" ((encodedPairs parameters).map (fun pair => pair.1 ++ "=" ++ pair.2))

/-- A parameter named `authorization` in any case is left out, since it may carry the signature. -/
def signedQuery (parameters : List (String × String)) : String :=
  query (parameters.filter (fun pair => pair.1.toLower ≠ Header.authorization))

def headers (selected : Fields) : String :=
  let lines := selected.entries.map (fun field => normalize field.1 ++ ":" ++ normalize field.2)
  Text.joinText "\n" (lines.mergeSort (fun left right => decide (left ≤ right)))

/-- The text that is signed: four components, a line break after each of the first three. -/
def request (method path query headers : String) : String :=
  method.toUpper ++ "\n" ++ path ++ "\n" ++ query ++ "\n" ++ headers

end SignedRest.Canonical
