/-
Instants, as nanoseconds since the start of 1970, and their two written forms: the signing time and
the date of a message header.
-/

import SignedRest.Time.Civil

namespace SignedRest

def leastSecond : Int := -377705023201
def greatestSecond : Int := 253402207200

structure Timestamp where
  nanoseconds : Int
  lower : leastSecond * 1000000000 ≤ nanoseconds
  upper : nanoseconds < (greatestSecond + 1) * 1000000000
deriving DecidableEq

namespace Timestamp

def ofNanoseconds? (nanoseconds : Int) : Option Timestamp :=
  if range : leastSecond * 1000000000 ≤ nanoseconds ∧
      nanoseconds < (greatestSecond + 1) * 1000000000 then
    some ⟨nanoseconds, range.1, range.2⟩
  else none

def ofSeconds? (seconds : Int) : Option Timestamp :=
  ofNanoseconds? (seconds * 1000000000)

/-- Seconds and a part of a second, which may have different signs. The seconds alone are within the
range too. -/
def ofParts? (seconds nanoseconds : Int) : Option Timestamp :=
  if leastSecond ≤ seconds ∧ seconds ≤ greatestSecond ∧ nanoseconds.natAbs ≤ 999999999 then
    ofNanoseconds? (seconds * 1000000000 + nanoseconds)
  else none

def epoch : Timestamp := ⟨0, by decide, by decide⟩

instance : Inhabited Timestamp := ⟨epoch⟩

/-- Whole seconds, rounded down. -/
def second (timestamp : Timestamp) : Int :=
  timestamp.nanoseconds / 1000000000

def civil (timestamp : Timestamp) : Time.Civil :=
  Time.Civil.ofSeconds timestamp.second

end Timestamp

namespace Time.Civil

def timeText (civil : Civil) : List Char :=
  padded 2 civil.hour ++ ':' :: padded 2 civil.minute ++ ':' :: padded 2 civil.second

/-- For instance `2024-01-02T03:04:05Z`. -/
def signingText (civil : Civil) : String :=
  String.ofList (yearText civil.date.year ++ '-' :: padded 2 civil.date.month ++
    '-' :: padded 2 civil.date.day ++ 'T' :: civil.timeText ++ ['Z'])

/-- For instance `Tue, 02 Jan 2024 03:04:05 GMT`. -/
def messageText (civil : Civil) : String :=
  let month := (monthNames[civil.date.month - 1]?).getD ""
  String.ofList (civil.date.weekday.name.toList ++ ", ".toList ++ padded 2 civil.date.day ++
    ' ' :: month.toList ++ ' ' :: yearText civil.date.year ++ ' ' :: civil.timeText ++
    " GMT".toList)

end Time.Civil

namespace Timestamp

def signingText (timestamp : Timestamp) : String :=
  timestamp.civil.signingText

def messageText (timestamp : Timestamp) : String :=
  timestamp.civil.messageText

end Timestamp

end SignedRest
