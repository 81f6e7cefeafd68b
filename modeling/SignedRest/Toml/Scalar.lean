/-
Numbers, truth values and dates of a TOML document, which stand without quotes.
-/

import SignedRest.Number.Digits
import SignedRest.Text.Separated
import SignedRest.Time.Civil
import SignedRest.Toml

namespace SignedRest.Toml

def isDigit (c : Char) : Bool :=
  '0' ≤ c && c ≤ '9'

/-- Digits of a base, with single underscores between them. -/
def digits? (base : Nat) (chars : List Char) : Option (List Nat) :=
  let groups := Text.split '_' chars
  if groups.any List.isEmpty then none else groups.flatten.mapM (Number.digitOfChar? base)

/-- A sign and what follows it. -/
def signed : List Char → Bool × List Char
  | '+' :: rest => (false, rest)
  | '-' :: rest => (true, rest)
  | chars => (false, chars)

/-- Decimal digits without a zero before others. -/
def decimal? (chars : List Char) : Option (List Nat) := do
  let found ← digits? 10 chars
  if found.length > 1 ∧ found.head? = some 0 then none else some found

/-- Integers are within one hundred and twenty-eight bits. -/
def integer? (chars : List Char) : Option Toml := do
  let value : Int ← match chars with
    | '0' :: 'x' :: rest => (digits? 16 rest).map (fun found => (Number.ofDigits 16 found : Int))
    | '0' :: 'o' :: rest => (digits? 8 rest).map (fun found => (Number.ofDigits 8 found : Int))
    | '0' :: 'b' :: rest => (digits? 2 rest).map (fun found => (Number.ofDigits 2 found : Int))
    | _ =>
        let (negative, rest) := signed chars
        (decimal? rest).map (fun found => Number.signed negative (Number.ofDigits 10 found))
  if -(Nat.pow 2 127 : Int) ≤ value ∧ value < Nat.pow 2 128 then some (.integer value) else none

/-- Whether a decimal number is within the range of doubles. -/
def inRange (digits : List Nat) (exponent : Int) : Bool :=
  let value := Number.ofDigits 10 digits
  let limit := (Nat.pow 2 54 - 1) * Nat.pow 2 970
  if value = 0 then true
  else if exponent + digits.length < -400 then true
  else if exponent > 400 then false
  else if 0 ≤ exponent then decide (value * Nat.pow 10 exponent.toNat < limit)
  else decide (value < limit * Nat.pow 10 (-exponent).toNat)

def float? (chars : List Char) : Option Toml :=
  let (_, bare) := signed chars
  if bare = "inf".toList ∨ bare = "nan".toList then some .float
  else do
    let isMark (c : Char) : Bool := c = 'e' || c = 'E'
    let front := bare.takeWhile (fun c => !isMark c)
    let power : Int ← match bare.dropWhile (fun c => !isMark c) with
      | [] => some 0
      | _ :: rest =>
          let (negative, rest) := signed rest
          (digits? 10 rest).map (fun found => Number.signed negative (Number.ofDigits 10 found))
    let (whole, fraction) := Text.cut '.' front
    let whole ← decimal? whole
    let places ← match fraction with
      | none => if front.length = bare.length then none else some []
      | some chars => digits? 10 chars
    if inRange (whole ++ places) (power - places.length) then some .float else none

/-! ### Dates -/

/-- A number of just so many digits, up to a bound. -/
def fixed? (width bound : Nat) (chars : List Char) : Option (Nat × List Char) :=
  let front := chars.take width
  let value := Number.ofDigits 10 (front.map (fun c => c.toNat - 48))
  if front.length = width ∧ front.all isDigit ∧ value ≤ bound then some (value, chars.drop width)
  else none

def char? (expected : Char) : List Char → Option (List Char)
  | c :: rest => if c = expected then some rest else none
  | [] => none

def date? (chars : List Char) : Option (List Char) := do
  let (year, rest) ← fixed? 4 9999 chars
  let (month, rest) ← fixed? 2 12 (← char? '-' rest)
  let (day, rest) ← fixed? 2 31 (← char? '-' rest)
  if (Time.Date.mk year month day).isValid then some rest else none

/-- Seconds may be left out; a part of a second has at least one digit. -/
def time? (chars : List Char) : Option (List Char) := do
  let (_, rest) ← fixed? 2 23 chars
  let (_, rest) ← fixed? 2 59 (← char? ':' rest)
  match char? ':' rest with
  | none => some rest
  | some rest =>
      let (_, rest) ← fixed? 2 60 rest
      match char? '.' rest with
      | none => some rest
      | some rest => if rest.head?.any isDigit then some (rest.dropWhile isDigit) else none

def offset? : List Char → Option (List Char)
  | [] => some []
  | c :: rest =>
      if c = 'Z' ∨ c = 'z' then some rest
      else if c = '+' ∨ c = '-' then do
        let (_, rest) ← fixed? 2 23 rest
        let (_, rest) ← fixed? 2 59 (← char? ':' rest)
        some rest
      else none

def datetime? (chars : List Char) : Option Toml := do
  let rest ← match date? chars with
    | some [] => some []
    | some (c :: rest) =>
        if c = 'T' ∨ c = 't' ∨ c = ' ' then (time? rest).bind offset? else none
    | none => time? chars
  if rest.isEmpty then some .datetime else none

def scalar? (chars : List Char) : Option Toml :=
  if chars = "true".toList then some (.bool true)
  else if chars = "false".toList then some (.bool false)
  else (integer? chars).or ((float? chars).or (datetime? chars))

/-- The characters of a scalar. A date and a time may have one space between them. -/
def isScalarChar (c : Char) : Bool :=
  c.isAlphanum || c = '+' || c = '-' || c = '_' || c = '.' || c = ':'

def scalarText (chars : List Char) : List Char × List Char :=
  let front := chars.takeWhile isScalarChar
  match date? front, chars.dropWhile isScalarChar with
  | some [], ' ' :: c :: rest =>
      if isDigit c then
        (front ++ ' ' :: (c :: rest).takeWhile isScalarChar, (c :: rest).dropWhile isScalarChar)
      else (front, ' ' :: c :: rest)
  | _, rest => (front, rest)

end SignedRest.Toml
