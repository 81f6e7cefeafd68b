/-
Heads of replies: a line with the status, then a block of fields that an empty line ends. Lines are
written with a carriage return before the line feed, and read with or without it.
-/

import SignedRest.Number.Digits
import SignedRest.Wire

namespace SignedRest.Wire

/-! ### Lines -/

def lineEnd : Bytes := [0x0D, 0x0A]

/-- What follows the end of a line. -/
def afterLine? : Bytes → Option Bytes
  | 0x0D :: 0x0A :: rest => some rest
  | 0x0A :: rest => some rest
  | _ => none

/-- The rest of a line, which holds nothing but value bytes, and what follows it. -/
def lineText? (bytes : Bytes) : Option (Bytes × Bytes) :=
  let text := bytes.takeWhile isValueByte
  (afterLine? (bytes.drop text.length)).map (text, ·)

def skipEmptyLines : Bytes → Bytes
  | 0x0D :: 0x0A :: rest => skipEmptyLines rest
  | 0x0A :: rest => skipEmptyLines rest
  | bytes => bytes

/-! ### Fields -/

structure Field where
  name : Bytes
  value : Bytes
deriving DecidableEq, Inhabited

def Field.write (field : Field) : Bytes :=
  field.name ++ 0x3A :: 0x20 :: field.value ++ lineEnd

/-- A colon follows the name at once; spaces around the value are no part of it. -/
def field? (bytes : Bytes) : Option (Field × Bytes) :=
  let name := bytes.takeWhile isTokenByte
  match bytes.drop name.length with
  | 0x3A :: rest =>
      if isName name then
        (lineText? rest).map (fun (text, after) => (⟨name, Text.stripWhere isSpace text⟩, after))
      else none
  | _ => none

/-- At most so many fields, up to and over an empty line. -/
def fields? (limit : Nat) (bytes : Bytes) : Option (List Field × Bytes) :=
  match afterLine? bytes with
  | some rest => some ([], rest)
  | none =>
      match limit with
      | 0 => none
      | limit + 1 => do
          let (first, rest) ← field? bytes
          let (others, rest) ← fields? limit rest
          some (first :: others, rest)

/-! ### Status lines -/

inductive Version where
  | v10
  | v11
deriving DecidableEq, Inhabited

def Version.text : Version → String
  | v10 => "HTTP/1.0"
  | v11 => "HTTP/1.1"

structure Head where
  version : Version
  status : Nat
  reason : Bytes
  fields : List Field
deriving DecidableEq, Inhabited

def Head.write (head : Head) : Bytes :=
  Utf8.encodeText (head.version.text ++ " " ++ toString head.status ++ " ") ++ head.reason ++
    lineEnd ++ head.fields.flatMap Field.write ++ lineEnd

def version? (bytes : Bytes) : Option (Version × Bytes) :=
  let rest := bytes.drop 8
  if bytes.take 8 = Utf8.encodeText Version.v11.text then some (.v11, rest)
  else if bytes.take 8 = Utf8.encodeText Version.v10.text then some (.v10, rest)
  else none

/-- A status has three digits, the first of which is no zero. -/
def status? : Bytes → Option (Nat × Bytes)
  | a :: b :: c :: rest => do
      let digits ← [a, b, c].mapM (Number.digitOfByte? 10)
      let status := Number.ofDigits 10 digits
      if status < 100 then none else some (status, rest)
  | _ => none

/-- The reason may be left out together with the space before it. -/
def reason? : Bytes → Option (Bytes × Bytes)
  | 0x20 :: rest => lineText? rest
  | bytes => (afterLine? bytes).map ([], ·)

/-- How many fields a head has at most. -/
def greatestFieldCount : Nat := 100

/-- A head and what follows it. Empty lines may come before it. -/
def head? (bytes : Bytes) : Option (Head × Bytes) := do
  match ← version? (skipEmptyLines bytes) with
  | (version, 0x20 :: rest) =>
      let (status, rest) ← status? rest
      let (reason, rest) ← reason? rest
      let (fields, rest) ← fields? greatestFieldCount rest
      some (⟨version, status, reason, fields⟩, rest)
  | _ => none

/-- An interim reply is not the one that is waited for. -/
def Head.isInterim (head : Head) : Bool :=
  head.status < 200 && head.status ≠ 101

/-- The first head that is not interim. -/
def finalHead? : Nat → Bytes → Option (Head × Bytes)
  | 0, _ => none
  | fuel + 1, bytes => do
      let (head, rest) ← head? bytes
      if head.isInterim then finalHead? fuel rest else some (head, rest)

def finalHeadOf? (bytes : Bytes) : Option (Head × Bytes) :=
  finalHead? (bytes.length + 1) bytes

end SignedRest.Wire
