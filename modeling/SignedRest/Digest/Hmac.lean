/-
Keyed hashes: HMAC over SHA-256, and their text in hexadecimal.
-/

import SignedRest.Digest.Sha256
import SignedRest.Number.Digits

namespace SignedRest.Hmac

def blockSize : Nat := 64

/-- A key of one block: longer ones are hashed, shorter ones filled with zeros. -/
def blockKey (key : Bytes) : Bytes :=
  let short := if key.length > blockSize then Sha256.digest key else key
  short ++ List.replicate (blockSize - short.length) 0

def keyed (mask : UInt8) (key message : Bytes) : Bytes :=
  Sha256.digest ((blockKey key).map (· ^^^ mask) ++ message)

def digest (key message : Bytes) : Bytes :=
  keyed 0x5C key (keyed 0x36 key message)

/-- Two lower-case digits for each byte. -/
def hexText (bytes : Bytes) : String :=
  String.ofList (bytes.flatMap (fun byte =>
    [Number.lowerDigit (byte.toNat / 16), Number.lowerDigit (byte.toNat % 16)]))

/-- The keyed hash of a text, in hexadecimal. -/
def hexDigest (key message : String) : String :=
  hexText (digest (Utf8.encodeText key) (Utf8.encodeText message))

end SignedRest.Hmac
