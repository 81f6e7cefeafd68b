/-
Finite double-precision numbers in exact arithmetic. A number is a sign, a significand below 2^53
and a power of two not below 2^-1074; the significand is at least 2^52 unless the power is the least
one, so a number has one form. Every operation gives the double nearest to the exact result, of two
equally near ones that with the even significand, or nothing when the result is too large.
-/

namespace SignedRest

structure Double where
  negative : Bool
  significand : Nat
  exponent : Int
deriving DecidableEq, Inhabited

namespace Double

def leastExponent : Int := -1074
def greatestExponent : Int := 971

def zero (negative : Bool) : Double := ⟨negative, 0, leastExponent⟩

def neg (value : Double) : Double := { value with negative := !value.negative }

def isZero (value : Double) : Bool := value.significand == 0

/-- A fraction `numerator / denominator` divided by a power of two. -/
def scaledDown (numerator denominator : Nat) (exponent : Int) : Nat × Nat :=
  if 0 ≤ exponent then (numerator, denominator * Nat.pow 2 exponent.toNat)
  else (numerator * Nat.pow 2 (-exponent).toNat, denominator)

/-- The power of two that leaves a quotient of at most fifty-three binary digits. -/
def exponentFor (numerator denominator : Nat) : Int :=
  let guess := max leastExponent ((numerator.log2 : Int) - (denominator.log2 : Int) - 53)
  let (top, bottom) := scaledDown numerator denominator guess
  if top / bottom < Nat.pow 2 53 then guess else guess + 1

def ofFraction (negative : Bool) (numerator denominator : Nat) : Option Double :=
  if numerator = 0 then some (zero negative)
  else
    let exponent := exponentFor numerator denominator
    let (top, bottom) := scaledDown numerator denominator exponent
    let quotient := top / bottom
    let twice := 2 * (top % bottom)
    let rounded :=
      if twice > bottom ∨ (twice = bottom ∧ quotient % 2 = 1) then quotient + 1 else quotient
    let value : Double :=
      if rounded < Nat.pow 2 53 then ⟨negative, rounded, exponent⟩
      else ⟨negative, Nat.pow 2 52, exponent + 1⟩
    if value.exponent ≤ greatestExponent then some value else none

def ofNat (value : Nat) : Option Double :=
  ofFraction false value 1

/-- The magnitude as a fraction. -/
def fraction (value : Double) : Nat × Nat :=
  scaledDown value.significand 1 (-value.exponent)

def mul (left right : Double) : Option Double :=
  let (leftTop, leftBottom) := left.fraction
  let (rightTop, rightBottom) := right.fraction
  ofFraction (left.negative != right.negative) (leftTop * rightTop) (leftBottom * rightBottom)

/-- The divisor is not zero. -/
def div (left right : Double) : Option Double :=
  let (leftTop, leftBottom) := left.fraction
  let (rightTop, rightBottom) := right.fraction
  ofFraction (left.negative != right.negative) (leftTop * rightBottom) (leftBottom * rightTop)

def powerOfTen (exponent : Nat) : Option Double :=
  ofNat (Nat.pow 10 exponent)

/-- The largest power of ten that is a double's magnitude. -/
def greatestPowerOfTen : Nat := 308

/-- A decimal significand times a power of ten, in steps that each round: the significand becomes a
double, and the power of ten a factor or a divisor. Divisors beyond the largest power go in several
steps, and a value that has reached zero stays there. -/
def scaleByTen (value : Double) (exponent : Int) : Option Double :=
  if exponent.natAbs ≤ greatestPowerOfTen then do
    let power ← powerOfTen exponent.natAbs
    if 0 ≤ exponent then value.mul power else value.div power
  else if value.isZero then some value
  else if _large : 0 ≤ exponent then none
  else do
    let power ← powerOfTen greatestPowerOfTen
    let smaller ← value.div power
    smaller.scaleByTen (exponent + greatestPowerOfTen)
termination_by exponent.natAbs
decreasing_by
  simp only [greatestPowerOfTen] at *
  omega

end Double

end SignedRest
