/-
The meaning of a document: text of a string, value of a number, and the whole value within a limit
on how deep arrays and objects are nested.
-/

import SignedRest.Json
import SignedRest.Json.Document

namespace SignedRest.Json

/-- The bytes of a string. A unit of the lower half of a pair needs one of the upper half before
it. -/
def piecesBytes? : List Piece → Option Bytes
  | [] => some []
  | .byte value :: rest => (piecesBytes? rest).map (value :: ·)
  | .unit high :: rest =>
      if high < 0xD800 ∨ 0xDFFF < high then
        (piecesBytes? rest).map (String.utf8EncodeChar (Char.ofNat high) ++ ·)
      else if 0xDC00 ≤ high then none
      else match rest with
        | .unit low :: rest =>
            if 0xDC00 ≤ low ∧ low ≤ 0xDFFF then
              let c := Char.ofNat (0x10000 + (high - 0xD800) * 0x400 + (low - 0xDC00))
              (piecesBytes? rest).map (String.utf8EncodeChar c ++ ·)
            else none
        | _ => none

def piecesText? (pieces : List Piece) : Option String :=
  (piecesBytes? pieces).bind Utf8.decodeText?

def greatestInteger : Nat := UInt64.size - 1

/-- Adds digits at the end of a significand while it fits sixty-four bits; answers with the digits
left. -/
def takeDigits (significand : Nat) : List Nat → Nat × List Nat
  | [] => (significand, [])
  | digit :: rest =>
      if significand * 10 + digit ≤ greatestInteger then takeDigits (significand * 10 + digit) rest
      else (significand, digit :: rest)

/-- The double of a number with a fraction, an exponent or too many digits. Digits that do not fit
the significand count as zeros. -/
def Literal.double? (literal : Literal) : Option Double := do
  let (whole, wholeLeft) := takeDigits 0 literal.whole
  let fraction := literal.fraction.getD []
  let (significand, fractionLeft) := takeDigits whole fraction
  let places : Int := wholeLeft.length - (fraction.length - fractionLeft.length : Int)
  let power : Int := match literal.exponent with
    | none => 0
    | some (negative, digits) => Number.signed negative (Number.ofDigits 10 digits)
  let magnitude ← (← Double.ofNat significand).scaleByTen (places + power)
  some (if literal.negative then magnitude.neg else magnitude)

def Literal.number? (literal : Literal) : Option Number :=
  let value := Number.ofDigits 10 literal.whole
  if literal.fraction.isNone ∧ literal.exponent.isNone ∧ value ≤ greatestInteger ∧
      (literal.negative → value ≠ 0 ∧ value ≤ Nat.pow 2 63) then
    some (.integer (Number.signed literal.negative value))
  else literal.double?.map .double

mutual

/-- The value of a document in which at most `depth` arrays and objects are nested. -/
def ofDocument? (depth : Nat) : Document → Option Json
  | .null => some null
  | .bool value => some (bool value)
  | .number literal => literal.number?.map number
  | .string pieces => (piecesText? pieces).map text
  | .array items =>
      match depth with
      | 0 => none
      | depth + 1 => (itemsOf? depth items).map array
  | .object members =>
      match depth with
      | 0 => none
      | depth + 1 => (membersOf? depth members).map ofMembers

def itemsOf? (depth : Nat) : List Document → Option (List Json)
  | [] => some []
  | item :: rest => do
      let first ← ofDocument? depth item
      let others ← itemsOf? depth rest
      some (first :: others)

def membersOf? (depth : Nat) : List (List Piece × Document) → Option (List (String × Json))
  | [] => some []
  | (name, item) :: rest => do
      let key ← piecesText? name
      let first ← ofDocument? depth item
      let others ← membersOf? depth rest
      some ((key, first) :: others)

end

def greatestDepth : Nat := 127

def ofBytes? (input : Bytes) : Option Json :=
  (Document.ofBytes? input).bind (ofDocument? greatestDepth)

end SignedRest.Json
