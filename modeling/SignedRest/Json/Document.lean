/-
JSON text as the grammar reads it, before its numbers and strings get a meaning: a document that is
well formed here may still hold a string that is no text, or a number out of range. Only what is
used of a document has to have a meaning.
-/

import SignedRest.Number.Digits
import SignedRest.Number.Double
import SignedRest.Text.Utf8

namespace SignedRest.Json

/-- What stands between the quotes of a string: a byte, also one written with a short escape, or a
sixteen-bit unit written with four hexadecimal digits. -/
inductive Piece where
  | byte (value : UInt8)
  | unit (value : Nat)
deriving DecidableEq, Inhabited

/-- A number as it is written: digits of each part, most significant first. -/
structure Literal where
  negative : Bool
  whole : List Nat
  fraction : Option (List Nat)
  exponent : Option (Bool × List Nat)
deriving DecidableEq, Inhabited

inductive Document where
  | null
  | bool (value : Bool)
  | number (literal : Literal)
  | string (pieces : List Piece)
  | array (items : List Document)
  | object (members : List (List Piece × Document))
deriving Inhabited

namespace Document

def isBlank (byte : UInt8) : Bool :=
  byte == 0x20 || byte == 0x09 || byte == 0x0A || byte == 0x0D

def skipBlank (input : Bytes) : Bytes :=
  input.dropWhile isBlank

def isDigit (byte : UInt8) : Bool :=
  0x30 ≤ byte && byte ≤ 0x39

def digits (input : Bytes) : List Nat :=
  (input.takeWhile isDigit).map (fun byte => byte.toNat - 0x30)

def shortEscape? (byte : UInt8) : Option UInt8 :=
  if byte = 0x22 then some 0x22
  else if byte = 0x5C then some 0x5C
  else if byte = 0x2F then some 0x2F
  else if byte = 0x62 then some 0x08
  else if byte = 0x66 then some 0x0C
  else if byte = 0x6E then some 0x0A
  else if byte = 0x72 then some 0x0D
  else if byte = 0x74 then some 0x09
  else none

/-- Reads up to and over the closing quote. Control characters are refused. -/
def string? : Bytes → Option (List Piece × Bytes)
  | [] => none
  | 0x22 :: rest => some ([], rest)
  | 0x5C :: 0x75 :: a :: b :: c :: d :: rest => do
      let digits ← [a, b, c, d].mapM (Number.digitOfByte? 16)
      let (pieces, after) ← string? rest
      some (.unit (Number.ofDigits 16 digits) :: pieces, after)
  | 0x5C :: escape :: rest => do
      let byte ← shortEscape? escape
      let (pieces, after) ← string? rest
      some (.byte byte :: pieces, after)
  | byte :: rest =>
      if byte < 0x20 ∨ byte = 0x5C then none
      else (string? rest).map (fun (pieces, after) => (.byte byte :: pieces, after))

/-- The digits at the front, at least one. -/
def someDigits? (input : Bytes) : Option (List Nat × Bytes) :=
  match digits input with
  | [] => none
  | found => some (found, input.dropWhile isDigit)

def fraction? : Bytes → Option (Option (List Nat) × Bytes)
  | 0x2E :: rest => (someDigits? rest).map (fun (found, after) => (some found, after))
  | input => some (none, input)

def signedDigits? : Bytes → Option ((Bool × List Nat) × Bytes)
  | 0x2B :: rest => (someDigits? rest).map (fun (found, after) => ((false, found), after))
  | 0x2D :: rest => (someDigits? rest).map (fun (found, after) => ((true, found), after))
  | input => (someDigits? input).map (fun (found, after) => ((false, found), after))

def exponent? : Bytes → Option (Option (Bool × List Nat) × Bytes)
  | 0x65 :: rest => (signedDigits? rest).map (fun (found, after) => (some found, after))
  | 0x45 :: rest => (signedDigits? rest).map (fun (found, after) => (some found, after))
  | input => some (none, input)

/-- A number without its sign. A zero that stands first is the only digit before the point. -/
def magnitude? (negative : Bool) (input : Bytes) : Option (Literal × Bytes) := do
  let (whole, afterWhole) ← someDigits? input
  if whole.head? = some 0 ∧ whole.length ≠ 1 then none
  let (fraction, afterFraction) ← fraction? afterWhole
  let (exponent, rest) ← exponent? afterFraction
  some (⟨negative, whole, fraction, exponent⟩, rest)

/-- What stands in the place of a value, a bracket excepted. -/
def scalar? : Bytes → Option (Document × Bytes)
  | 0x22 :: rest => (string? rest).map (fun (pieces, after) => (string pieces, after))
  | 0x2D :: rest => (magnitude? true rest).map (fun (literal, after) => (number literal, after))
  | 0x6E :: 0x75 :: 0x6C :: 0x6C :: rest => some (null, rest)
  | 0x74 :: 0x72 :: 0x75 :: 0x65 :: rest => some (bool true, rest)
  | 0x66 :: 0x61 :: 0x6C :: 0x73 :: 0x65 :: rest => some (bool false, rest)
  | input => (magnitude? false input).map (fun (literal, after) => (number literal, after))

mutual

/-- A value and the input after it. The number of nested calls is bounded by `fuel`. -/
def value? : Nat → Bytes → Option (Document × Bytes)
  | 0, _ => none
  | fuel + 1, input =>
      match skipBlank input with
      | 0x5B :: rest =>
          match skipBlank rest with
          | 0x5D :: after => some (array [], after)
          | rest => (items? fuel rest).map (fun (items, after) => (array items, after))
      | 0x7B :: rest =>
          match skipBlank rest with
          | 0x7D :: after => some (object [], after)
          | rest => (members? fuel rest).map (fun (members, after) => (object members, after))
      | rest => scalar? rest

/-- At least one value, up to and over the closing bracket. -/
def items? : Nat → Bytes → Option (List Document × Bytes)
  | 0, _ => none
  | fuel + 1, input => do
      let (first, rest) ← value? fuel input
      match skipBlank rest with
      | 0x5D :: after => some ([first], after)
      | 0x2C :: more =>
          let (others, after) ← items? fuel more
          some (first :: others, after)
      | _ => none

/-- At least one member, up to and over the closing brace. -/
def members? : Nat → Bytes → Option (List (List Piece × Document) × Bytes)
  | 0, _ => none
  | fuel + 1, input =>
      match skipBlank input with
      | 0x22 :: named => do
          let (name, rest) ← string? named
          match skipBlank rest with
          | 0x3A :: rest =>
              let (first, rest) ← value? fuel rest
              match skipBlank rest with
              | 0x7D :: after => some ([(name, first)], after)
              | 0x2C :: more =>
                  let (others, after) ← members? fuel more
                  some ((name, first) :: others, after)
              | _ => none
          | _ => none
      | _ => none

end

/-- One document with nothing but blanks around it. Every call but every second one takes a byte, so
the fuel suffices. -/
def ofBytes? (input : Bytes) : Option Document := do
  let (document, rest) ← value? (2 * input.length + 2) input
  if (skipBlank rest).isEmpty then some document else none

end Document

end SignedRest.Json
