/-
The shortest decimal digits that read back as a given double, and their layout. Of the decimals with
the fewest digits the one nearest to the double is taken.
-/

import SignedRest.Number.Double

namespace SignedRest

/-- A decimal `digits · 10^exponent`. -/
structure Decimal where
  digits : Nat
  exponent : Int
deriving DecidableEq, Inhabited

namespace Decimal

/-- A decimal as a fraction over the positive denominator. -/
def fraction (value : Decimal) : Nat × Nat :=
  if 0 ≤ value.exponent then (value.digits * Nat.pow 10 value.exponent.toNat, 1)
  else (value.digits, Nat.pow 10 (-value.exponent).toNat)

def dropZerosFrom : Nat → Decimal → Decimal
  | 0, value => value
  | fuel + 1, value =>
      if value.digits ≠ 0 ∧ value.digits % 10 = 0 then
        dropZerosFrom fuel ⟨value.digits / 10, value.exponent + 1⟩
      else value

/-- The same number without zeros at its end. -/
def dropZeros (value : Decimal) : Decimal :=
  dropZerosFrom value.digits.log2 value

end Decimal

namespace Double

/-- The decimals that read back as the double lie between these two fractions over one denominator,
the ends included when the significand is even. -/
structure Neighbourhood where
  lower : Nat
  exact : Nat
  upper : Nat
  denominator : Nat
  closed : Bool

def neighbourhood (value : Double) : Neighbourhood :=
  let closeBelow := value.significand = Nat.pow 2 52 ∧ value.exponent ≠ leastExponent
  let steps : Nat := if closeBelow then 1 else 2
  let (unit, bottom) := scaledDown 1 4 (-value.exponent)
  { lower := (4 * value.significand - steps) * unit
    exact := 4 * value.significand * unit
    upper := (4 * value.significand + 2) * unit
    denominator := bottom
    closed := value.significand % 2 == 0 }

def Neighbourhood.holds (range : Neighbourhood) (candidate : Decimal) : Bool :=
  let (top, bottom) := candidate.fraction
  let scaled := top * range.denominator
  if range.closed then range.lower * bottom ≤ scaled && scaled ≤ range.upper * bottom
  else range.lower * bottom < scaled && scaled < range.upper * bottom

/-- The greatest power of ten that is not above a positive fraction. -/
def decimalMagnitude (numerator denominator : Nat) : Int :=
  let reaches (power : Int) : Bool :=
    let (top, bottom) := Decimal.fraction ⟨1, power⟩
    top * denominator ≤ numerator * bottom
  let guess := (((numerator.log2 : Int) - (denominator.log2 : Int)) * 30103).fdiv 100000
  if reaches (guess + 1) then guess + 1 else if reaches guess then guess else guess - 1

/-- The neighbour of the double on a decimal grid that reads back, the nearer one if both do. -/
def onGrid? (range : Neighbourhood) (exponent : Int) : Option Decimal :=
  let (top, bottom) := Decimal.fraction ⟨1, exponent⟩
  let unit := top * range.denominator
  let below := range.exact * bottom / unit
  let twice := 2 * (range.exact * bottom % unit)
  let lower : Decimal := ⟨below, exponent⟩
  let upper : Decimal := ⟨below + 1, exponent⟩
  let lowerFirst := twice < unit || (twice = unit && below % 2 = 0)
  if lowerFirst then
    if below ≠ 0 && range.holds lower then some lower
    else if range.holds upper then some upper else none
  else if range.holds upper then some upper
  else if below ≠ 0 && range.holds lower then some lower else none

def shortestFrom (range : Neighbourhood) (magnitude : Int) : List Nat → Decimal
  | [] => ⟨range.exact / range.denominator, 0⟩
  | count :: more =>
      match onGrid? range (magnitude - count) with
      | some found => found.dropZeros
      | none => shortestFrom range magnitude more

/-- The shortest decimal of a double that is not zero: one to seventeen digits. -/
def shortest (value : Double) : Decimal :=
  let range := value.neighbourhood
  shortestFrom range (decimalMagnitude range.exact range.denominator) (List.range 17)

/-- Where a layout changes from positions to an exponent. -/
structure Layout where
  leastPositional : Int
  greatestPositional : Int
  positiveSign : String

def zeros (count : Nat) : List Char :=
  List.replicate count '0'

/-- The digits with a point, or with a point after the first digit and the power of ten. -/
def Layout.write (layout : Layout) (value : Decimal) : List Char :=
  let digits := Nat.toDigits 10 value.digits
  let magnitude : Int := value.exponent + digits.length - 1
  if layout.leastPositional ≤ magnitude ∧ magnitude ≤ layout.greatestPositional then
    if 0 ≤ value.exponent then digits ++ zeros value.exponent.toNat ++ ['.', '0']
    else if 0 ≤ magnitude then
      digits.take (magnitude.toNat + 1) ++ '.' :: digits.drop (magnitude.toNat + 1)
    else '0' :: '.' :: zeros (-magnitude - 1).toNat ++ digits
  else
    let mark := if digits.length = 1 then digits else digits.take 1 ++ '.' :: digits.drop 1
    let sign := if magnitude < 0 then ['-'] else layout.positiveSign.toList
    mark ++ 'e' :: sign ++ Nat.toDigits 10 magnitude.natAbs

/-- Numbers from 10^-5 up to below 10^16 are written by position, others with a signed power of
ten. -/
def layout : Layout := ⟨-5, 15, "+"⟩

def text (value : Double) : String :=
  let magnitude := if value.isZero then ['0', '.', '0'] else layout.write value.shortest
  String.ofList (if value.negative then '-' :: magnitude else magnitude)

end Double

end SignedRest
