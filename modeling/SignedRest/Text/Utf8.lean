/-
UTF-8. Reading goes byte by byte: `items` gives each character, and `none` in the place of each
longest damaged sequence (a lead byte with the continuation bytes that may follow it, or one stray
byte).
-/

namespace SignedRest

abbrev Bytes := List UInt8

namespace Utf8

def encode (chars : List Char) : Bytes :=
  chars.flatMap String.utf8EncodeChar

def encodeText (text : String) : Bytes :=
  encode text.toList

/-- What the bytes of an unfinished character have told: the value so far, the number of bytes to
come, and the range that the next one has to be in. -/
structure Pending where
  value : Nat
  missing : Nat
  lowest : UInt8
  highest : UInt8

/-- What a byte means where no character is unfinished. -/
inductive Lead where
  | single (c : Char)
  | opens (pending : Pending)
  | stray

def lead (byte : UInt8) : Lead :=
  if byte < 0x80 then .single (Char.ofNat byte.toNat)
  else if byte < 0xC2 then .stray
  else if byte < 0xE0 then .opens ⟨byte.toNat - 0xC0, 1, 0x80, 0xBF⟩
  else if byte = 0xE0 then .opens ⟨0, 2, 0xA0, 0xBF⟩
  else if byte = 0xED then .opens ⟨0xD, 2, 0x80, 0x9F⟩
  else if byte < 0xF0 then .opens ⟨byte.toNat - 0xE0, 2, 0x80, 0xBF⟩
  else if byte = 0xF0 then .opens ⟨0, 3, 0x90, 0xBF⟩
  else if byte < 0xF4 then .opens ⟨byte.toNat - 0xF0, 3, 0x80, 0xBF⟩
  else if byte = 0xF4 then .opens ⟨4, 3, 0x80, 0x8F⟩
  else .stray

def itemsAfter : Option Pending → Bytes → List (Option Char)
  | none, [] => []
  | some _, [] => [none]
  | none, byte :: rest =>
      match lead byte with
      | .single c => some c :: itemsAfter none rest
      | .opens pending => itemsAfter (some pending) rest
      | .stray => none :: itemsAfter none rest
  | some pending, byte :: rest =>
      if pending.lowest ≤ byte ∧ byte ≤ pending.highest then
        let value := pending.value * 64 + (byte.toNat - 0x80)
        if pending.missing = 1 then some (Char.ofNat value) :: itemsAfter none rest
        else itemsAfter (some ⟨value, pending.missing - 1, 0x80, 0xBF⟩) rest
      else
        none :: match lead byte with
          | .single c => some c :: itemsAfter none rest
          | .opens next => itemsAfter (some next) rest
          | .stray => none :: itemsAfter none rest

def items (bytes : Bytes) : List (Option Char) :=
  itemsAfter none bytes

/-- Nothing if any sequence is damaged. -/
def decode? (bytes : Bytes) : Option (List Char) :=
  (items bytes).mapM id

def decodeText? (bytes : Bytes) : Option String :=
  (decode? bytes).map String.ofList

/-- A replacement character stands for each damaged sequence. -/
def decodeLossy (bytes : Bytes) : List Char :=
  (items bytes).map (·.getD '\uFFFD')

end Utf8

end SignedRest
