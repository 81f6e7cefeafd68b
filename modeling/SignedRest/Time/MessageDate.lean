/-
Dates of message headers, such as `Tue, 15 Nov 1994 08:12:31 GMT`. The weekday may be absent, years
may be short, and the zone may be an offset, a known name or any short run of letters.
-/

import SignedRest.Text.Blank
import SignedRest.Text.Utf8
import SignedRest.Time.Timestamp

namespace SignedRest.Time.MessageDate

def isSpace (byte : UInt8) : Bool :=
  byte == 0x20 || byte == 0x09 || byte == 0x0A || byte == 0x0C || byte == 0x0D

def isDigit (byte : UInt8) : Bool :=
  0x30 ≤ byte && byte ≤ 0x39

def lower (byte : UInt8) : UInt8 :=
  if 0x41 ≤ byte ∧ byte ≤ 0x5A then byte + 0x20 else byte

def skipSpace (input : Bytes) : Bytes :=
  input.dropWhile isSpace

/-- At least one space. -/
def space? : Bytes → Option Bytes
  | byte :: rest => if isSpace byte then some (skipSpace rest) else none
  | [] => none

def byte? (expected : UInt8) : Bytes → Option Bytes
  | byte :: rest => if byte = expected then some rest else none
  | [] => none

def value (digits : Bytes) : Nat :=
  digits.foldl (fun total digit => total * 10 + (digit.toNat - 0x30)) 0

/-- Two digits with a value up to a bound. -/
def pair? (bound : Nat) : Bytes → Option (Nat × Bytes)
  | high :: low :: rest =>
      if isDigit high ∧ isDigit low ∧ value [high, low] ≤ bound then some (value [high, low], rest)
      else none
  | _ => none

def weekdays : List Weekday :=
  [.sunday, .monday, .tuesday, .wednesday, .thursday, .friday, .saturday]

def named (name : String) (letters : Bytes) : Bool :=
  Utf8.encodeText name.toLower == letters.map lower

/-- A weekday and a comma, or a digit that comes next. -/
def weekday? (input : Bytes) : Option (Option Weekday × Bytes) := do
  let first ← input.head?
  if isDigit first then some (none, input)
  else
    let found ← weekdays.find? (fun weekday => named weekday.name (input.take 3))
    let rest ← byte? 0x2C (skipSpace (input.drop 3))
    some (some found, skipSpace rest)

def day? (input : Bytes) : Option (Nat × Bytes) := do
  let digits := (input.take 2).takeWhile isDigit
  if digits.isEmpty then none
  let rest ← space? (input.drop digits.length)
  some (value digits, rest)

def month? (input : Bytes) : Option (Nat × Bytes) := do
  let found ← monthNames.findIdx? (fun name => named name (input.take 3))
  let rest ← space? (input.drop 3)
  some (found + 1, rest)

/-- Two digits name a year from 1950 to 2049, three a year after 1900. -/
def year? (input : Bytes) : Option (Nat × Bytes) := do
  let digits := (input.take 4).takeWhile isDigit
  let number := value digits
  let year ← match digits.length with
    | 4 => some number
    | 3 => some (number + 1900)
    | 2 => some (if number ≤ 49 then number + 2000 else number + 1900)
    | _ => none
  let rest ← space? (input.drop digits.length)
  some (year, rest)

/-- Hours and minutes, and seconds after a second colon. A leap second counts as the one before
it. -/
def time? (input : Bytes) : Option ((Nat × Nat × Nat) × Bytes) := do
  let (hour, rest) ← pair? 23 input
  let rest ← byte? 0x3A (skipSpace rest)
  let (minute, rest) ← pair? 59 (skipSpace rest)
  match byte? 0x3A (skipSpace rest) with
  | some rest =>
      let (second, rest) ← pair? 60 (skipSpace rest)
      let rest ← space? rest
      some ((hour, minute, min second 59), rest)
  | none =>
      let rest ← space? rest
      some ((hour, minute, 0), rest)

def zones : List (String × Int) :=
  [("ut", 0), ("gmt", 0), ("z", 0), ("est", -5), ("edt", -4), ("cst", -6), ("cdt", -5), ("mst", -7),
    ("mdt", -6), ("pst", -8), ("pdt", -7)]

def isLetter (byte : UInt8) : Bool :=
  0x61 ≤ lower byte && lower byte ≤ 0x7A

/-- The offset in seconds of a zone's name. Names that are not known stand for no offset: one letter
other than `j`, or three letters and more. -/
def namedZone? (name : Bytes) : Option Int :=
  match zones.find? (fun zone => named zone.1 name) with
  | some (_, hours) => some (hours * 3600)
  | none =>
      if name.all isLetter ∧ (name.length ≥ 3 ∨ name.length = 1 ∧ ¬ named "j" name) then some 0
      else none

def zone? (input : Bytes) : Option (Int × Bytes) := do
  let first ← input.head?
  if first = 0x2B ∨ first = 0x2D then
    let (hours, rest) ← pair? 25 (input.drop 1)
    let (minutes, rest) ← pair? 59 rest
    let offset : Int := hours * 3600 + minutes * 60
    some (if first = 0x2D then -offset else offset, rest)
  else
    let name := (input.take 5).takeWhile (fun byte => !isSpace byte)
    if name.isEmpty then none
    let offset ← namedZone? name
    some (offset, input.drop name.length)

def greatestNesting : Nat := 255

/-- What follows a comment that is open to some depth. -/
def comment? : Nat → Bytes → Option Bytes
  | 0, rest => some rest
  | _, [] => none
  | depth, 0x5C :: _ :: rest => comment? depth rest
  | depth + 1, 0x29 :: rest => comment? depth rest
  | depth + 1, 0x28 :: rest =>
      if depth + 1 < greatestNesting then comment? (depth + 2) rest else none
  | depth, _ :: rest => comment? depth rest

/-- Nothing more, or one comment. -/
def isEnd (input : Bytes) : Bool :=
  match skipSpace input with
  | [] => true
  | 0x28 :: rest => ((comment? 1 rest).map (fun after => (skipSpace after).isEmpty)).getD false
  | _ => false

def ofBytes? (input : Bytes) : Option Timestamp := do
  let (weekday, rest) ← weekday? (skipSpace input)
  let (day, rest) ← day? rest
  let (month, rest) ← month? rest
  let (year, rest) ← year? rest
  let ((hour, minute, second), rest) ← time? rest
  let (offset, rest) ← zone? rest
  let date : Date := ⟨year, month, day⟩
  if isEnd rest ∧ date.isValid ∧ weekday.all (· = date.weekday) then
    Timestamp.ofSeconds? ((Civil.mk date hour minute second).toSeconds - offset)
  else none

/-- Blanks around the date are passed over. -/
def ofText? (text : String) : Option Timestamp :=
  ofBytes? (Utf8.encodeText (Text.trim text))

end SignedRest.Time.MessageDate
