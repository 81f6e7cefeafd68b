/-
Digits in bases up to sixteen. Letters count as digits in either case.
-/

namespace SignedRest.Number

/-- The value of an ASCII byte as a digit. -/
def digitOfByte? (base : Nat) (byte : UInt8) : Option Nat :=
  let value :=
    if 48 ≤ byte ∧ byte ≤ 57 then some (byte.toNat - 48)
    else if 65 ≤ byte ∧ byte ≤ 70 then some (byte.toNat - 55)
    else if 97 ≤ byte ∧ byte ≤ 102 then some (byte.toNat - 87)
    else none
  value.filter (· < base)

def digitOfChar? (base : Nat) (c : Char) : Option Nat :=
  if c.toNat < 0x80 then digitOfByte? base (UInt8.ofNat c.toNat) else none

def ofDigits (base : Nat) (digits : List Nat) : Nat :=
  digits.foldl (fun total digit => total * base + digit) 0

/-- The number that digits spell; zero if there are none. -/
def ofChars? (base : Nat) (chars : List Char) : Option Nat :=
  (chars.mapM (digitOfChar? base)).map (ofDigits base)

def signed (negative : Bool) (magnitude : Nat) : Int :=
  if negative then -(magnitude : Int) else magnitude

def lowerDigit (value : Nat) : Char :=
  Char.ofNat (if value < 10 then 48 + value else 87 + value)

def upperDigit (value : Nat) : Char :=
  Char.ofNat (if value < 10 then 48 + value else 55 + value)

end SignedRest.Number
