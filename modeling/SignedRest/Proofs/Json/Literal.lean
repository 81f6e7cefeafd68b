/-
The number that a literal is read as. Integers of sixty-four bits are kept digit by digit; every
other literal up to 10^308 has a double, since the digits that are read never make more than they
spell.
-/

import SignedRest.Json.Grammar
import SignedRest.Json.Reader
import SignedRest.Proofs.Number.Digits
import SignedRest.Proofs.Number.Double

namespace SignedRest.Json.Literal

/-! ### Integers -/

/-- A literal without fraction and exponent that says an integer; a zero has no sign. -/
structure IsInteger (literal : Literal) (value : Int) : Prop where
  noFraction : literal.fraction = none
  noExponent : literal.exponent = none
  told : value = Number.signed literal.negative (Number.ofDigits 10 literal.whole)
  signed : literal.negative = true → value ≠ 0

theorem number?_of_isInteger {literal : Literal} {value : Int} (integer : literal.IsInteger value)
    (low : -2 ^ 63 ≤ value) (high : value < 2 ^ 64) :
    literal.number? = some (.integer value) := by
  obtain ⟨noFraction, noExponent, told, signed⟩ := integer
  have fits : literal.fraction.isNone = true ∧ literal.exponent.isNone = true ∧
      Number.ofDigits 10 literal.whole ≤ greatestInteger ∧ (literal.negative = true →
        Number.ofDigits 10 literal.whole ≠ 0 ∧
          Number.ofDigits 10 literal.whole ≤ Nat.pow 2 63) := by
    refine ⟨congrArg Option.isNone noFraction, congrArg Option.isNone noExponent, ?_⟩
    have most : greatestInteger = 2 ^ 64 - 1 := rfl
    cases sign : literal.negative with
    | false =>
        rw [told, Number.signed, sign, if_neg Bool.false_ne_true] at high
        exact ⟨by omega, fun impossible => nomatch impossible⟩
    | true =>
        have filled := signed sign
        rw [told, Number.signed, sign, if_pos rfl] at low filled
        refine ⟨by omega, fun _ => ⟨by omega, ?_⟩⟩
        change _ ≤ 2 ^ 63
        omega
  rw [number?, if_pos fits, told]

theorem toText_signed {negative : Bool} {value : Nat} (signed : negative = true → value ≠ 0) :
    (Json.Number.integer (Number.signed negative value)).toText =
      String.ofList ((if negative then ['-'] else []) ++ Nat.toDigits 10 value) := by
  cases negative with
  | false => rfl
  | true =>
      obtain ⟨before, rfl⟩ := Nat.exists_eq_succ_of_ne_zero (signed rfl)
      change "-" ++ String.ofList (Nat.toDigits 10 (before + 1)) = _
      rw [if_pos rfl, String.ofList_append]

/-- An integer is told by the very digits with which it is written. -/
theorem text_of_isInteger {literal : Literal} {chars : List Char} {value : Int}
    (spells : Grammar.SpellsNumber literal chars) (integer : literal.IsInteger value)
    (low : -2 ^ 63 ≤ value) (high : value < 2 ^ 64) :
    literal.number?.map Json.Number.toText = some (String.ofList chars) := by
  rw [number?_of_isInteger integer low high, Option.map_some]
  obtain ⟨noFraction, noExponent, told, signed⟩ := integer
  cases spells with
  | parts spellsWhole leading spellsFraction spellsExponent =>
      cases noFraction
      cases noExponent
      cases spellsFraction
      cases spellsExponent
      rename_i negative whole wholeChars
      have filled : negative = true → Number.ofDigits 10 whole ≠ 0 := by
        intro minus nothing
        refine signed minus ?_
        rw [told, nothing, minus]
        rfl
      rw [told, toText_signed filled, Number.toDigits_ofDigits spellsWhole.filled
        spellsWhole.decimal leading, List.append_nil, List.append_nil, spellsWhole.written]

/-! ### Decimals -/

/-- The power of ten that stands behind a literal's digits. -/
def power (literal : Literal) : Int :=
  match literal.exponent with
  | none => 0
  | some (negative, digits) => Number.signed negative (Number.ofDigits 10 digits)

/-- The number that a literal stands for, without its sign. -/
def magnitude (literal : Literal) : ℚ :=
  Number.ofDigits 10 (literal.whole ++ literal.fraction.getD []) *
    10 ^ (literal.power - (literal.fraction.getD []).length)

/-- A number with digits written after it. -/
def grown (number : Nat) (digits : List Nat) : Nat :=
  digits.foldl (fun total digit => total * 10 + digit) number

theorem grown_append (number : Nat) (front back : List Nat) :
    grown number (front ++ back) = grown (grown number front) back :=
  List.foldl_append

theorem le_grown (number : Nat) (digits : List Nat) :
    number * 10 ^ digits.length ≤ grown number digits := by
  induction digits generalizing number with
  | nil => exact (Nat.mul_one number).le
  | cons digit rest ih =>
      refine le_trans ?_ (ih (number * 10 + digit))
      rw [List.length_cons, Nat.pow_succ, Nat.mul_comm (10 ^ rest.length), ← Nat.mul_assoc]
      exact Nat.mul_le_mul_right _ (Nat.le_add_right _ _)

/-- Digits are taken as long as they fit, and the first one left does not fit any more. -/
structure Taken (start : Nat) (digits : List Nat) (taken : Nat) (left : List Nat) : Prop where
  used : ∃ front, digits = front ++ left ∧ grown start front = taken
  fits : start ≤ greatestInteger → taken ≤ greatestInteger
  full : ∀ digit rest, left = digit :: rest → greatestInteger < taken * 10 + digit

theorem takeDigits_spec (start : Nat) (digits : List Nat) :
    Taken start digits (takeDigits start digits).1 (takeDigits start digits).2 := by
  induction digits generalizing start with
  | nil => exact ⟨⟨[], rfl, rfl⟩, id, fun _ _ impossible => nomatch impossible⟩
  | cons digit rest ih =>
      rw [takeDigits]
      split
      · rename_i room
        obtain ⟨⟨front, split, value⟩, fits, full⟩ := ih (start * 10 + digit)
        exact ⟨⟨digit :: front, congrArg (digit :: ·) split, value⟩, fun _ => fits room, full⟩
      · rename_i refused
        refine ⟨⟨[], rfl, rfl⟩, id, ?_⟩
        intro other later same
        obtain ⟨rfl, rfl⟩ := List.cons.inj same
        exact Nat.lt_of_not_le refused

/-- A digit of the fraction may come in the place of a digit that did not fit before the point, but
then it is less than that one. -/
theorem taken_le_grown {whole wholeLeft used : List Nat} {front : Nat}
    (wholeTaken : Taken 0 whole front wholeLeft)
    (fits : front ≤ greatestInteger → grown front used ≤ greatestInteger) :
    grown front used * 10 ^ wholeLeft.length ≤ grown (grown front wholeLeft) used := by
  have kept := wholeTaken.fits (Nat.zero_le _)
  cases wholeLeft with
  | nil => exact (Nat.mul_one _).le
  | cons digit rest =>
      cases used with
      | nil => exact le_grown front (digit :: rest)
      | cons first more =>
          have replaced : grown front (first :: more) ≤ front * 10 + digit :=
            (fits kept).trans (wholeTaken.full digit rest rfl).le
          calc grown front (first :: more) * 10 ^ (digit :: rest).length
              ≤ (front * 10 + digit) * 10 ^ (digit :: rest).length :=
                Nat.mul_le_mul_right _ replaced
            _ = (front * 10 + digit) * 10 ^ rest.length * 10 := by
                rw [List.length_cons, Nat.pow_succ, Nat.mul_assoc]
            _ ≤ grown front (digit :: rest) * 10 :=
                Nat.mul_le_mul_right _ (le_grown (front * 10 + digit) rest)
            _ ≤ grown front (digit :: rest) * 10 ^ (first :: more).length :=
                Nat.mul_le_mul_left _ (le_self_pow₀ (by decide) (Nat.succ_ne_zero _))
            _ ≤ grown (grown front (digit :: rest)) (first :: more) := le_grown _ _

/-- What is read of the digits, with zeros for those that are left, is at most what they spell. -/
theorem taken_le {whole fraction wholeLeft fractionLeft : List Nat} {front taken : Nat}
    (wholeTaken : Taken 0 whole front wholeLeft)
    (fractionTaken : Taken front fraction taken fractionLeft) :
    taken * 10 ^ (wholeLeft.length + fractionLeft.length) ≤
      Number.ofDigits 10 (whole ++ fraction) := by
  obtain ⟨usedWhole, splitWhole, readWhole⟩ := wholeTaken.used
  obtain ⟨used, split, read⟩ := fractionTaken.used
  have spelled : Number.ofDigits 10 (whole ++ fraction) =
      grown (grown (grown front wholeLeft) used) fractionLeft := by
    change grown 0 (whole ++ fraction) = _
    rw [splitWhole, split, grown_append, grown_append, grown_append, readWhole]
  have stays : front ≤ greatestInteger → grown front used ≤ greatestInteger := by
    rw [read]
    exact fractionTaken.fits
  have step := taken_le_grown wholeTaken stays
  rw [read] at step
  rw [spelled, Nat.pow_add, ← Nat.mul_assoc]
  exact (Nat.mul_le_mul_right _ step).trans (le_grown _ _)

theorem twice_le_limit {taken : Nat} (fits : taken ≤ greatestInteger) :
    (taken : ℚ) * 2 ≤ 10 ^ Double.greatestPowerOfTen := by
  have small : taken * 2 ≤ 10 ^ 20 := by
    have most : greatestInteger = 2 ^ 64 - 1 := rfl
    omega
  have smallRat : (taken : ℚ) * 2 ≤ 10 ^ 20 := by exact_mod_cast small
  exact smallRat.trans (pow_le_pow_right₀ (by norm_num) (by decide))

theorem exists_double {literal : Literal}
    (small : literal.magnitude ≤ 10 ^ Double.greatestPowerOfTen) :
    ∃ value, literal.double? = some value := by
  have wholeTaken := takeDigits_spec 0 literal.whole
  have fractionTaken := takeDigits_spec (takeDigits 0 literal.whole).1 (literal.fraction.getD [])
  rw [double?]
  generalize takeDigits 0 literal.whole = first at *
  obtain ⟨front, wholeLeft⟩ := first
  dsimp only at wholeTaken fractionTaken ⊢
  generalize takeDigits front (literal.fraction.getD []) = second at *
  obtain ⟨taken, fractionLeft⟩ := second
  dsimp only at fractionTaken ⊢
  have fits := twice_le_limit (fractionTaken.fits (wholeTaken.fits (Nat.zero_le _)))
  have below : (taken : ℚ) * 10 ^ (wholeLeft.length + fractionLeft.length) ≤
      Number.ofDigits 10 (literal.whole ++ literal.fraction.getD []) := by
    exact_mod_cast taken_le wholeTaken fractionTaken
  have bounded : (taken : ℚ) * 10 ^ ((wholeLeft.length : Int) -
      ((literal.fraction.getD []).length - fractionLeft.length) + literal.power) ≤
        10 ^ Double.greatestPowerOfTen := by
    have parts : (wholeLeft.length : Int) -
        ((literal.fraction.getD []).length - fractionLeft.length) + literal.power =
          ((wholeLeft.length + fractionLeft.length : Nat) : Int) +
            (literal.power - (literal.fraction.getD []).length) := by omega
    rw [parts, zpow_add₀ (by norm_num), zpow_natCast, ← mul_assoc]
    exact (mul_le_mul_of_nonneg_right below (by positivity)).trans small
  obtain ⟨value, scaled, found, multiplied⟩ := Double.exists_scaled fits bounded
  refine ⟨if literal.negative then scaled.neg else scaled, ?_⟩
  rw [found, Option.bind_eq_bind, Option.bind_some]
  change (value.scaleByTen (_ + literal.power)).bind _ = _
  rw [multiplied]
  rfl

/-- No literal up to 10^308 is out of range. -/
theorem exists_number {literal : Literal}
    (small : literal.magnitude ≤ 10 ^ Double.greatestPowerOfTen) :
    ∃ value, literal.number? = some value := by
  rw [number?]
  split
  · exact ⟨_, rfl⟩
  · obtain ⟨value, found⟩ := exists_double small
    exact ⟨.double value, congrArg (Option.map _) found⟩

end SignedRest.Json.Literal
