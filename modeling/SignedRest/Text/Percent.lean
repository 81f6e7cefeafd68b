/-
Percent-encoding. A byte outside the kept ones is written as `%` and two upper-case hexadecimal
digits; reading takes digits of either case and leaves every other `%` as it stands.
-/

import SignedRest.Number.Digits
import SignedRest.Text.Utf8

namespace SignedRest.Percent

def escape (byte : UInt8) : List Char :=
  ['%', Number.upperDigit (byte.toNat / 16), Number.upperDigit (byte.toNat % 16)]

/-- Kept bytes are ASCII in every use. -/
def encodeByte (keeps : UInt8 → Bool) (byte : UInt8) : List Char :=
  if keeps byte then [Char.ofNat byte.toNat] else escape byte

def encode (keeps : UInt8 → Bool) (bytes : Bytes) : List Char :=
  bytes.flatMap (encodeByte keeps)

def decode : Bytes → Bytes
  | 0x25 :: high :: low :: rest =>
      match Number.digitOfByte? 16 high, Number.digitOfByte? 16 low with
      | some upper, some lower => UInt8.ofNat (upper * 16 + lower) :: decode rest
      | _, _ => 0x25 :: decode (high :: low :: rest)
  | byte :: rest => byte :: decode rest
  | [] => []

/-- Encodes the UTF-8 form of a text. -/
def encodeText (keeps : UInt8 → Bool) (text : String) : String :=
  String.ofList (encode keeps (Utf8.encodeText text))

def decodeText (text : String) : Bytes :=
  decode (Utf8.encodeText text)

end SignedRest.Percent
