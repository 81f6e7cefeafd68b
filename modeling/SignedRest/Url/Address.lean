/-
Internet addresses in the host of a URL. A version 4 address is read from one to four numbers in
base ten, eight or sixteen, the last of which fills all bytes that are left; a version 6 address is
eight groups, of which one run of zeros may be left out.
-/

import SignedRest.Number.Digits
import SignedRest.Text.Separated

namespace SignedRest.Address

/-- A number whose first characters tell its base. -/
def part? : List Char → Option Nat
  | [] => none
  | '0' :: 'x' :: rest => Number.ofChars? 16 rest
  | '0' :: 'X' :: rest => Number.ofChars? 16 rest
  | ['0'] => some 0
  | '0' :: rest => Number.ofChars? 8 rest
  | digits => Number.ofChars? 10 digits

/-- The parts between dots; an empty part at the end is no part. -/
def parts (host : List Char) : List (List Char) :=
  let pieces := Text.split '.' host
  if pieces.length > 1 ∧ pieces.getLast? = some [] then pieces.dropLast else pieces

/-- A host whose last part is a number is read as an address. -/
def endsInNumber (host : List Char) : Bool :=
  match (parts host).getLast? with
  | none => false
  | some last => (!last.isEmpty && last.all (fun c => '0' ≤ c && c ≤ '9')) || (part? last).isSome

def v4? (host : List Char) : Option Nat := do
  let numbers ← (parts host).mapM part?
  let last ← numbers.getLast?
  let leading := numbers.dropLast
  if leading.length > 3 ∨ leading.any (· > 255) ∨ last ≥ Nat.pow 256 (4 - leading.length) then none
  else some (Number.ofDigits 256 leading * Nat.pow 256 (4 - leading.length) + last)

def v4Text (address : Nat) : List Char :=
  let part (place : Nat) : List Char := Nat.toDigits 10 (address / Nat.pow 256 place % 256)
  Text.join '.' ([3, 2, 1, 0].map part)

/-- A part of a version 4 address inside a version 6 one: decimal, without zeros before it. -/
def embeddedPart? (digits : List Char) : Option Nat :=
  if digits.length > 1 ∧ digits.head? = some '0' then none
  else if digits.isEmpty then none
  else (Number.ofChars? 10 digits).filter (· ≤ 255)

/-- The two groups of a version 4 address at the end of a version 6 one. -/
def embedded? (text : List Char) : Option (List Nat) := do
  match ← (Text.split '.' text).mapM embeddedPart? with
  | [a, b, c, d] => some [a * 256 + b, c * 256 + d]
  | _ => none

def group? (digits : List Char) : Option Nat :=
  if digits.isEmpty ∨ digits.length > 4 then none else Number.ofChars? 16 digits

/-- Groups between colons; no text means no groups. -/
def groups? (mayEmbed : Bool) (text : List Char) : Option (List Nat) :=
  if text.isEmpty then some []
  else
    let pieces := Text.split ':' text
    match pieces.getLast? with
    | some last =>
        if mayEmbed ∧ last.contains '.' then do
          let leading ← pieces.dropLast.mapM group?
          some (leading ++ (← embedded? last))
        else pieces.mapM group?
    | none => none

/-- The text before and after the first double colon. -/
def divide : List Char → List Char × Option (List Char)
  | ':' :: ':' :: rest => ([], some rest)
  | c :: rest => (c :: (divide rest).1, (divide rest).2)
  | [] => ([], none)

def v6? (text : List Char) : Option (List Nat) :=
  match divide text with
  | (_, none) => if text.isEmpty then none else (groups? true text).filter (·.length = 8)
  | (before, some after) => do
      let left ← groups? false before
      let right ← groups? true after
      if left.length + right.length ≤ 7 then
        some (left ++ List.replicate (8 - left.length - right.length) 0 ++ right)
      else none

/-- The longest of the runs of zeros at least two groups long, as its start and length; of equally
long ones the first. -/
def longestZeros (groups : List Nat) : Option (Nat × Nat) :=
  (List.range groups.length).foldl (fun best start =>
    let length := ((groups.drop start).takeWhile (· = 0)).length
    if length ≥ 2 ∧ best.all (fun (_, found) => found < length) then some (start, length)
    else best) none

def groupsText (groups : List Nat) : List Char :=
  Text.join ':' (groups.map (Nat.toDigits 16))

def v6Text (groups : List Nat) : List Char :=
  match longestZeros groups with
  | none => groupsText groups
  | some (start, length) =>
      groupsText (groups.take start) ++ ':' :: ':' :: groupsText (groups.drop (start + length))

end SignedRest.Address
