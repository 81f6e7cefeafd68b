/-
Bodies in chunks. Each chunk has its size in front, on a line that may go on with an extension; a
chunk of size zero is the last, and fields may follow it.
-/

import SignedRest.Reply
import SignedRest.Wire.Head

namespace SignedRest.Wire

/-! ### Writing -/

def chunk (content : Bytes) : Bytes :=
  let size := (Nat.toDigits 16 content.length).map Char.toUpper
  Utf8.encode size ++ lineEnd ++ content ++ lineEnd

/-- A body as one chunk, with the mark of the end behind it. -/
def chunked (body : Bytes) : Bytes :=
  chunk body ++ chunk []

/-! ### Reading -/

/-- The line in front of a chunk. -/
structure ChunkLine where
  size : Nat
  extension : Bytes
deriving DecidableEq, Inhabited

/-- A size that 64 bits can hold, spaces, and an extension after a semicolon. The line ends with
both a carriage return and a line feed, and neither of them is in the extension. -/
def chunkLine? (bytes : Bytes) : Option (ChunkLine × Bytes) :=
  let digits := bytes.takeWhile (fun byte => (Number.digitOfByte? 16 byte).isSome)
  let size := Number.ofDigits 16 (digits.filterMap (Number.digitOfByte? 16))
  if digits.isEmpty ∨ UInt64.size ≤ size then none
  else match (bytes.drop digits.length).dropWhile isSpace with
    | 0x0D :: 0x0A :: rest => some (⟨size, []⟩, rest)
    | 0x3B :: rest =>
        let extension := rest.takeWhile (fun byte => byte ≠ 0x0D && byte ≠ 0x0A)
        match rest.drop extension.length with
        | 0x0D :: 0x0A :: after => some (⟨size, extension⟩, after)
        | _ => none
    | _ => none

/-- At most so many lines up to an empty one. -/
def trailerLines? : Nat → Bytes → Option (List Bytes)
  | _, 0x0D :: 0x0A :: _ => some []
  | 0, _ => none
  | limit + 1, bytes =>
      let line := bytes.takeWhile (· ≠ 0x0D)
      match bytes.drop line.length with
      | 0x0D :: 0x0A :: rest => (trailerLines? limit rest).map (line :: ·)
      | _ => none

/-- All extensions together, and all fields after the last chunk, stay below this size. -/
def chunkOverhead : Nat := 16384

/-- The lines after the last chunk hold fields, if there are any. -/
def endsWell (bytes : Bytes) : Bool :=
  match trailerLines? greatestFieldCount bytes with
  | none => false
  | some [] => true
  | some lines =>
      let block := lines.flatMap (· ++ lineEnd) ++ lineEnd
      decide (block.length < chunkOverhead) && (fields? lines.length block).isSome

/-- The bytes in the chunks, and whether these came to their end. So many bytes of extensions are
still allowed. -/
def dechunk : Nat → Nat → Bytes → Body.Contents
  | 0, _, _ => ⟨[], false⟩
  | fuel + 1, allowed, bytes =>
      match chunkLine? bytes with
      | none => ⟨[], false⟩
      | some (line, rest) =>
          if allowed ≤ line.extension.length then ⟨[], false⟩
          else if line.size = 0 then ⟨[], endsWell rest⟩
          else match rest.drop line.size with
            | 0x0D :: 0x0A :: after =>
                let later := dechunk fuel (allowed - line.extension.length) after
                ⟨rest.take line.size ++ later.bytes, later.complete⟩
            | _ => ⟨rest.take line.size, false⟩

def dechunked (bytes : Bytes) : Body.Contents :=
  dechunk (bytes.length + 1) chunkOverhead bytes

end SignedRest.Wire
