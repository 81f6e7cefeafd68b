/-
Rounding keeps a double near to the number that it is for, and gives none only beyond the greatest
one. So every decimal of magnitude up to 10^308 has a double, though its significand, its power of
ten and their product are each rounded.
-/

import SignedRest.Number.Double
import Mathlib.Algebra.Order.Field.Power
import Mathlib.Tactic.FieldSimp
import Mathlib.Tactic.Linarith
import Mathlib.Tactic.NormNum
import Mathlib.Tactic.Positivity
import Mathlib.Tactic.Ring
import Mathlib.Data.Rat.Cast.Order

namespace SignedRest.Double

/-- The number that a double stands for, without its sign. -/
def magnitude (value : Double) : ℚ :=
  value.significand * 2 ^ value.exponent

/-- The greatest magnitude of a finite double. -/
def greatest : ℚ :=
  (2 ^ 53 - 1) * 2 ^ greatestExponent

/-- As near as rounding leaves a double to the number that it stands for. -/
def Near (found exact : ℚ) : Prop :=
  |found - exact| ≤ exact / 2 ^ 52 + 2 ^ leastExponent

/-! ### Scaling -/

theorem scaledDown_pos (numerator : Nat) {denominator : Nat} (positive : 0 < denominator)
    (exponent : Int) : 0 < (scaledDown numerator denominator exponent).2 := by
  rw [scaledDown]
  split
  · exact Nat.mul_pos positive (Nat.pow_pos (by decide))
  · exact positive

theorem scaledDown_ratio (numerator denominator : Nat) (exponent : Int) :
    ((scaledDown numerator denominator exponent).1 : ℚ) /
        (scaledDown numerator denominator exponent).2 =
      numerator / denominator / 2 ^ exponent := by
  rw [scaledDown]
  split
  · rename_i upward
    obtain ⟨power, rfl⟩ := Int.eq_ofNat_of_zero_le upward
    rw [Int.toNat_natCast, Nat.pow_eq, Nat.cast_mul, Nat.cast_pow, zpow_natCast, div_div]
    rfl
  · rename_i downward
    obtain ⟨power, same⟩ := Int.eq_ofNat_of_zero_le (a := -exponent) (by omega)
    have negated : exponent = -(power : Int) := by omega
    rw [same, negated, Int.toNat_natCast, Nat.pow_eq, Nat.cast_mul, Nat.cast_pow, zpow_neg,
      zpow_natCast, div_inv_eq_mul, mul_div_right_comm]
    rfl

theorem log2_ratio {numerator denominator : Nat} (filled : 0 < numerator)
    (positive : 0 < denominator) :
    (2 : ℚ) ^ ((numerator.log2 : Int) - denominator.log2 - 1) < numerator / denominator ∧
      (numerator : ℚ) / denominator < 2 ^ ((numerator.log2 : Int) - denominator.log2 + 1) := by
  have numeratorLow : (2 : ℚ) ^ numerator.log2 ≤ numerator := by
    exact_mod_cast Nat.log2_self_le (Nat.ne_of_gt filled)
  have numeratorHigh : (numerator : ℚ) < 2 ^ (numerator.log2 + 1) := by
    exact_mod_cast Nat.lt_log2_self
  have denominatorLow : (2 : ℚ) ^ denominator.log2 ≤ denominator := by
    exact_mod_cast Nat.log2_self_le (Nat.ne_of_gt positive)
  have denominatorHigh : (denominator : ℚ) < 2 ^ (denominator.log2 + 1) := by
    exact_mod_cast Nat.lt_log2_self
  have positiveRat : (0 : ℚ) < denominator := by exact_mod_cast positive
  constructor
  · rw [lt_div_iff₀ positiveRat]
    calc (2 : ℚ) ^ ((numerator.log2 : Int) - denominator.log2 - 1) * denominator
        < 2 ^ ((numerator.log2 : Int) - denominator.log2 - 1) * 2 ^ (denominator.log2 + 1) := by
          gcongr
      _ = 2 ^ numerator.log2 := by
          rw [← zpow_natCast, ← zpow_natCast, ← zpow_add₀ two_ne_zero]
          congr 1
          push_cast
          ring
      _ ≤ numerator := numeratorLow
  · rw [div_lt_iff₀ positiveRat]
    calc (numerator : ℚ) < 2 ^ (numerator.log2 + 1) := numeratorHigh
      _ = 2 ^ ((numerator.log2 : Int) - denominator.log2 + 1) * 2 ^ denominator.log2 := by
          rw [← zpow_natCast, ← zpow_natCast, ← zpow_add₀ two_ne_zero]
          congr 1
          push_cast
          ring
      _ ≤ 2 ^ ((numerator.log2 : Int) - denominator.log2 + 1) * denominator := by gcongr

/-! ### Rounding -/

theorem div_lt_iff_ratio {top bottom : Nat} (positive : 0 < bottom) (limit : Nat) :
    top / bottom < limit ↔ (top : ℚ) / bottom < limit := by
  have positiveRat : (0 : ℚ) < bottom := by exact_mod_cast positive
  rw [Nat.div_lt_iff_lt_mul positive, div_lt_iff₀ positiveRat]
  exact_mod_cast Iff.rfl

/-- What fifty-three more places than the logarithm has leave of a number: one digit too many at
the most. -/
theorem ratio_scaled {exact : ℚ} {log : Int} (low : 2 ^ (log - 1) < exact)
    (high : exact < 2 ^ (log + 1)) :
    2 ^ 52 < exact / 2 ^ (log - 53) ∧
      ∀ exponent, log - 53 ≤ exponent → exact / 2 ^ exponent < 2 ^ 54 := by
  constructor
  · rw [lt_div_iff₀ (by positivity)]
    refine lt_of_eq_of_lt ?_ low
    rw [← zpow_natCast, ← zpow_add₀ two_ne_zero]
    congr 1
    push_cast
    ring
  · intro exponent enough
    rw [div_lt_iff₀ (by positivity)]
    refine high.trans_le ?_
    rw [← zpow_natCast, ← zpow_add₀ two_ne_zero]
    exact zpow_le_zpow_right₀ one_le_two (by push_cast; omega)

/-- The quotient has fifty-three binary digits, and fewer only at the least exponent. -/
theorem exponentFor_spec {numerator denominator : Nat} (filled : 0 < numerator)
    (positive : 0 < denominator) :
    leastExponent ≤ exponentFor numerator denominator ∧
      (numerator : ℚ) / denominator / 2 ^ exponentFor numerator denominator < 2 ^ 53 ∧
      (leastExponent < exponentFor numerator denominator →
        2 ^ 52 ≤ (numerator : ℚ) / denominator / 2 ^ exponentFor numerator denominator) := by
  obtain ⟨low, high⟩ := log2_ratio filled positive
  generalize logs : (numerator.log2 : Int) - denominator.log2 = log at low high
  obtain ⟨below, above⟩ := ratio_scaled low high
  obtain ⟨start, same⟩ : ∃ start, max leastExponent (log - 53) = start := ⟨_, rfl⟩
  have least : leastExponent ≤ start := same ▸ le_max_left _ _
  have wide := above start (same ▸ le_max_right leastExponent (log - 53))
  have fits : (scaledDown numerator denominator start).1 /
      (scaledDown numerator denominator start).2 < 2 ^ 53 ↔
        (numerator : ℚ) / denominator / 2 ^ start < 2 ^ 53 := by
    rw [div_lt_iff_ratio (scaledDown_pos numerator positive start), scaledDown_ratio]
    norm_num
  have step : (numerator : ℚ) / denominator / 2 ^ (start + 1) =
      numerator / denominator / 2 ^ start / 2 := by
    rw [zpow_add_one₀ two_ne_zero, div_div _ (2 ^ start)]
  unfold exponentFor
  rw [logs, same]
  dsimp only
  rw [Nat.pow_eq]
  split
  · rename_i narrow
    refine ⟨least, fits.mp narrow, fun inner => ?_⟩
    have begins : start = log - 53 := by omega
    rw [begins]
    exact below.le
  · -- the logarithms were one too low, and the next exponent halves the quotient
    rename_i broad
    have large := not_lt.mp (mt fits.mpr broad)
    rw [step]
    exact ⟨by omega, by linarith, fun _ => by linarith⟩

/-- The integer nearest to a fraction, of two equally near ones the even one. -/
def nearest (top bottom : Nat) : Nat :=
  let twice := 2 * (top % bottom)
  if twice > bottom ∨ (twice = bottom ∧ top / bottom % 2 = 1) then top / bottom + 1
  else top / bottom

theorem nearest_cases (top bottom : Nat) :
    nearest top bottom = top / bottom ∨
      (nearest top bottom = top / bottom + 1 ∧ (0 < bottom → top % bottom ≠ 0)) := by
  rw [nearest]
  split
  · exact .inr ⟨rfl, fun positive => by omega⟩
  · exact .inl rfl

theorem nearest_near (top : Nat) {bottom : Nat} (positive : 0 < bottom) :
    |(nearest top bottom : ℚ) - top / bottom| ≤ 1 := by
  have positiveRat : (0 : ℚ) < bottom := by exact_mod_cast positive
  have low : ((top / bottom : Nat) : ℚ) ≤ (top : ℚ) / bottom := by
    exact not_lt.mp (mt (div_lt_iff_ratio positive (top / bottom)).mpr (lt_irrefl _))
  have high : (top : ℚ) / bottom < ((top / bottom : Nat) : ℚ) + 1 := by
    have step := (div_lt_iff_ratio positive (top / bottom + 1)).mp (Nat.lt_succ_self (top / bottom))
    rwa [Nat.cast_succ] at step
  rw [abs_le]
  rcases nearest_cases top bottom with same | ⟨same, -⟩
  · rw [same]
    constructor
    · linarith
    · linarith
  · rw [same, Nat.cast_succ]
    constructor
    · linarith
    · linarith

theorem nearest_le {top bottom limit : Nat} (positive : 0 < bottom)
    (bounded : (top : ℚ) / bottom ≤ limit) : nearest top bottom ≤ limit := by
  have positiveRat : (0 : ℚ) < bottom := by exact_mod_cast positive
  have product : top ≤ limit * bottom := by
    rw [div_le_iff₀ positiveRat] at bounded
    exact_mod_cast bounded
  have quotient : top / bottom ≤ limit :=
    (Nat.div_le_div_right product).trans_eq (Nat.mul_div_cancel limit positive)
  rcases nearest_cases top bottom with same | ⟨same, inexact⟩
  · rwa [same]
  · rw [same]
    refine Nat.succ_le_of_lt (lt_of_le_of_ne quotient fun equal => ?_)
    have parts := Nat.div_add_mod top bottom
    rw [equal, Nat.mul_comm] at parts
    have exact := inexact positive
    omega

/-- The significand of a fraction, before it is known to stay below 2^53. -/
def rounded (numerator denominator : Nat) : Nat :=
  let scaled := scaledDown numerator denominator (exponentFor numerator denominator)
  nearest scaled.1 scaled.2

/-- A significand that rounding makes too wide is the next power of two. -/
theorem ofFraction_eq (negative : Bool) {numerator denominator : Nat} (filled : 0 < numerator) :
    ofFraction negative numerator denominator =
      let value : Double :=
        if rounded numerator denominator < 2 ^ 53 then
          ⟨negative, rounded numerator denominator, exponentFor numerator denominator⟩
        else ⟨negative, 2 ^ 52, exponentFor numerator denominator + 1⟩
      if value.exponent ≤ greatestExponent then some value else none := by
  rw [ofFraction, if_neg (Nat.ne_of_gt filled)]
  rfl

theorem ofFraction_of_lt (negative : Bool) {numerator denominator : Nat} (filled : 0 < numerator)
    (narrow : rounded numerator denominator < 2 ^ 53)
    (inRange : exponentFor numerator denominator ≤ greatestExponent) :
    ofFraction negative numerator denominator =
      some ⟨negative, rounded numerator denominator, exponentFor numerator denominator⟩ := by
  rw [ofFraction_eq negative filled, if_pos narrow]
  exact if_pos inRange

theorem ofFraction_of_le (negative : Bool) {numerator denominator : Nat} (filled : 0 < numerator)
    (wide : 2 ^ 53 ≤ rounded numerator denominator)
    (inRange : exponentFor numerator denominator + 1 ≤ greatestExponent) :
    ofFraction negative numerator denominator =
      some ⟨negative, 2 ^ 52, exponentFor numerator denominator + 1⟩ := by
  rw [ofFraction_eq negative filled, if_neg (Nat.not_lt.mpr wide)]
  exact if_pos inRange

/-- Rounding changes a number by less than its last digit. -/
theorem rounded_near {numerator denominator : Nat} (filled : 0 < numerator)
    (positive : 0 < denominator) :
    Near (rounded numerator denominator * 2 ^ exponentFor numerator denominator)
      (numerator / denominator) := by
  obtain ⟨least, -, wide⟩ := exponentFor_spec filled positive
  have near := nearest_near (scaledDown numerator denominator (exponentFor numerator denominator)).1
    (scaledDown_pos numerator positive (exponentFor numerator denominator))
  rw [scaledDown_ratio] at near
  have unit : (0 : ℚ) < 2 ^ exponentFor numerator denominator := by positivity
  have exactPos : (0 : ℚ) ≤ (numerator : ℚ) / denominator := by positivity
  have digit : (2 : ℚ) ^ exponentFor numerator denominator ≤
      (numerator : ℚ) / denominator / 2 ^ 52 + 2 ^ leastExponent := by
    rcases least.eq_or_lt with same | inner
    · rw [← same]
      have scaled : (0 : ℚ) ≤ (numerator : ℚ) / denominator / 2 ^ 52 := by positivity
      linarith
    · have large := wide inner
      rw [le_div_iff₀ unit] at large
      have smallest : (0 : ℚ) < 2 ^ leastExponent := by positivity
      linarith
  have difference : (rounded numerator denominator : ℚ) * 2 ^ exponentFor numerator denominator -
      numerator / denominator =
        (rounded numerator denominator - numerator / denominator /
          2 ^ exponentFor numerator denominator) * 2 ^ exponentFor numerator denominator := by
    field_simp
  rw [Near, difference, abs_mul, abs_of_pos unit]
  calc _ ≤ 1 * (2 : ℚ) ^ exponentFor numerator denominator :=
        mul_le_mul_of_nonneg_right near unit.le
    _ ≤ _ := by rwa [one_mul]

/-- No exponent is too large for a number up to the greatest, and at the greatest exponent there is
no room to round up to 2^53. -/
theorem magnitude_le_greatest {exact : ℚ} {exponent : Int} (small : exact ≤ greatest)
    (wide : leastExponent < exponent → 2 ^ 52 ≤ exact / 2 ^ exponent) :
    exponent ≤ greatestExponent ∧
      (exponent = greatestExponent → exact / 2 ^ exponent ≤ 2 ^ 53 - 1) := by
  constructor
  · by_contra beyond
    have large := wide (by unfold leastExponent; unfold greatestExponent at beyond; omega)
    rw [le_div_iff₀ (by positivity)] at large
    have grown : (2 : ℚ) ^ (greatestExponent + 1) ≤ 2 ^ exponent :=
      zpow_le_zpow_right₀ one_le_two (by omega)
    rw [zpow_add_one₀ two_ne_zero] at grown
    have unit : (0 : ℚ) < 2 ^ greatestExponent := by positivity
    rw [greatest] at small
    linarith
  · rintro rfl
    rw [div_le_iff₀ (by positivity)]
    exact small

theorem ofFraction_near (negative : Bool) (numerator : Nat) {denominator : Nat}
    (positive : 0 < denominator) (small : (numerator : ℚ) / denominator ≤ greatest) :
    ∃ value, ofFraction negative numerator denominator = some value ∧
      Near value.magnitude (numerator / denominator) := by
  rcases Nat.eq_zero_or_pos numerator with rfl | filled
  · refine ⟨zero negative, rfl, ?_⟩
    rw [Near, magnitude, zero, Nat.cast_zero, zero_mul, zero_div, zero_div, sub_zero, abs_zero,
      zero_add]
    positivity
  · obtain ⟨-, narrow, wide⟩ := exponentFor_spec filled positive
    obtain ⟨inRange, last⟩ := magnitude_le_greatest small wide
    have within : ∀ limit : Nat,
        (numerator : ℚ) / denominator / 2 ^ exponentFor numerator denominator ≤ limit →
          rounded numerator denominator ≤ limit := by
      intro limit bounded
      rw [← scaledDown_ratio] at bounded
      exact nearest_le (scaledDown_pos numerator positive _) bounded
    have near := rounded_near filled positive
    by_cases fits : rounded numerator denominator < 2 ^ 53
    · exact ⟨_, ofFraction_of_lt negative filled fits inRange, near⟩
    · -- rounded up to 2^53, which the next exponent takes
      have full : rounded numerator denominator = 2 ^ 53 :=
        Nat.le_antisymm (within _ (by exact_mod_cast narrow.le)) (Nat.not_lt.mp fits)
      have inner : exponentFor numerator denominator ≠ greatestExponent := by
        intro same
        have below := within (2 ^ 53 - 1) (by
          have bounded := last same
          norm_num at bounded ⊢
          exact bounded)
        omega
      refine ⟨_, ofFraction_of_le negative filled (Nat.not_lt.mp fits) (by omega), ?_⟩
      have carried : magnitude ⟨negative, 2 ^ 52, exponentFor numerator denominator + 1⟩ =
          ((2 ^ 53 : Nat) : ℚ) * 2 ^ exponentFor numerator denominator := by
        rw [magnitude, zpow_add_one₀ two_ne_zero]
        push_cast
        ring
      rw [carried, ← full]
      exact near

/-! ### Products and quotients -/

theorem magnitude_nonneg (value : Double) : 0 ≤ value.magnitude :=
  mul_nonneg (Nat.cast_nonneg _) (by positivity)

theorem fraction_pos (value : Double) : 0 < value.fraction.2 :=
  scaledDown_pos _ Nat.one_pos _

theorem fraction_ratio (value : Double) :
    (value.fraction.1 : ℚ) / value.fraction.2 = value.magnitude := by
  rw [fraction, scaledDown_ratio, Nat.cast_one, div_one, zpow_neg, div_inv_eq_mul]
  rfl

theorem mul_near {left right : Double} (small : left.magnitude * right.magnitude ≤ greatest) :
    ∃ value, left.mul right = some value ∧
      Near value.magnitude (left.magnitude * right.magnitude) := by
  have ratio : ((left.fraction.1 * right.fraction.1 : Nat) : ℚ) /
      (left.fraction.2 * right.fraction.2 : Nat) = left.magnitude * right.magnitude := by
    rw [Nat.cast_mul, Nat.cast_mul, mul_div_mul_comm, fraction_ratio, fraction_ratio]
  rw [← ratio] at small ⊢
  exact ofFraction_near _ _ (Nat.mul_pos left.fraction_pos right.fraction_pos) small

theorem div_near {left right : Double} (divides : 0 < right.magnitude)
    (small : left.magnitude / right.magnitude ≤ greatest) :
    ∃ value, left.div right = some value ∧
      Near value.magnitude (left.magnitude / right.magnitude) := by
  have ratio : ((left.fraction.1 * right.fraction.2 : Nat) : ℚ) /
      (left.fraction.2 * right.fraction.1 : Nat) = left.magnitude / right.magnitude := by
    rw [Nat.cast_mul, Nat.cast_mul, mul_div_mul_comm, fraction_ratio, ← fraction_ratio right,
      div_div_eq_mul_div, div_eq_mul_inv, div_eq_mul_inv _ (right.fraction.1 : ℚ)]
    ring
  have top : 0 < right.fraction.1 := by
    rw [← fraction_ratio] at divides
    refine Nat.pos_of_ne_zero fun nothing => ?_
    rw [nothing, Nat.cast_zero, zero_div] at divides
    exact lt_irrefl _ divides
  rw [← ratio] at small ⊢
  exact ofFraction_near _ _ (Nat.mul_pos left.fraction_pos top) small

/-! ### Scaling by powers of ten -/

/-- Near a number that is not below one, what rounding changes is a small share of it. -/
theorem Near.share {found exact : ℚ} (near : Near found exact) (whole : 1 ≤ exact) :
    exact * (1 - 1 / 2 ^ 51) ≤ found ∧ found ≤ exact * (1 + 1 / 2 ^ 51) := by
  have tiny : (2 : ℚ) ^ leastExponent ≤ 1 / 2 ^ 52 := by
    rw [one_div, ← zpow_natCast, ← zpow_neg]
    exact zpow_le_zpow_right₀ one_le_two (by decide)
  rw [Near, abs_le] at near
  constructor
  · linarith
  · linarith

theorem natCast_le_greatest {value : Nat} (small : value ≤ (2 ^ 53 - 1) * 2 ^ 971) :
    (value : ℚ) ≤ greatest := by
  have power : (2 : ℚ) ^ greatestExponent = 2 ^ 971 := zpow_natCast 2 971
  have smallRat : (value : ℚ) ≤ ((2 ^ 53 - 1) * 2 ^ 971 : Nat) := Nat.cast_le.mpr small
  rw [Nat.cast_mul, Nat.cast_pow _ 971] at smallRat
  rw [greatest, power]
  generalize (2 : ℚ) ^ 971 = unit at *
  push_cast at smallRat
  linarith

/-- A quarter more than the greatest power of ten is not too large. -/
theorem le_greatest {exact : ℚ} (small : exact ≤ 10 ^ greatestPowerOfTen * (5 / 4)) :
    exact ≤ greatest := by
  have limit := natCast_le_greatest (show 10 ^ 306 * 125 ≤ _ by decide +kernel)
  have same : ((10 ^ 306 * 125 : Nat) : ℚ) = 10 ^ greatestPowerOfTen * (5 / 4) := by
    rw [Nat.cast_mul, Nat.cast_pow, greatestPowerOfTen, pow_add (10 : ℚ) 306 2]
    generalize (10 : ℚ) ^ 306 = unit
    ring
  exact small.trans (same ▸ limit)

theorem ofNat_near {value : Nat} (small : (value : ℚ) ≤ 10 ^ greatestPowerOfTen) :
    ∃ found, ofNat value = some found ∧ Near found.magnitude value := by
  have near := ofFraction_near false value Nat.one_pos
  rw [Nat.cast_one, div_one] at near
  exact near (le_greatest (by linarith [Nat.cast_nonneg (α := ℚ) value]))

theorem powerOfTen_near {exponent : Nat} (small : exponent ≤ greatestPowerOfTen) :
    ∃ power, powerOfTen exponent = some power ∧ 10 ^ exponent * (1 - 1 / 2 ^ 51) ≤ power.magnitude ∧
      power.magnitude ≤ 10 ^ exponent * (1 + 1 / 2 ^ 51) := by
  have bounded : (10 : ℚ) ^ exponent ≤ 10 ^ greatestPowerOfTen :=
    pow_le_pow_right₀ (by norm_num) small
  have whole : (1 : ℚ) ≤ 10 ^ exponent := one_le_pow₀ (by norm_num)
  have casted : ((Nat.pow 10 exponent : Nat) : ℚ) = 10 ^ exponent := by
    rw [Nat.pow_eq, Nat.cast_pow]
    rfl
  obtain ⟨power, found, near⟩ := ofNat_near (casted.trans_le bounded)
  rw [casted] at near
  exact ⟨power, found, near.share whole⟩

theorem div_le_quarter {top bottom : ℚ} (nonneg : 0 ≤ top) (large : 4 / 5 ≤ bottom) :
    top / bottom ≤ top * (5 / 4) := by
  rw [div_le_iff₀ (by linarith), mul_assoc]
  exact le_mul_of_one_le_right nonneg (by linarith)

theorem ten_le_limit : (10 : ℚ) ≤ 10 ^ greatestPowerOfTen :=
  le_self_pow₀ (by norm_num) (by decide)

/-- Divisions only make a number smaller, so none of them is refused. -/
theorem scaleByTen_down (value : Double) {exponent : Int} (downward : exponent < 0)
    (bounded : value.magnitude ≤ 10 ^ greatestPowerOfTen) :
    ∃ scaled, value.scaleByTen exponent = some scaled := by
  induction steps : exponent.natAbs using Nat.strongRecOn generalizing value exponent with
  | ind count ih =>
      have positive := value.magnitude_nonneg
      rw [scaleByTen]
      by_cases near : exponent.natAbs ≤ greatestPowerOfTen
      · obtain ⟨power, found, low, -⟩ := powerOfTen_near near
        have whole : (1 : ℚ) ≤ 10 ^ exponent.natAbs := one_le_pow₀ (by norm_num)
        have divisor : 4 / 5 ≤ power.magnitude := by linarith
        have small := (div_le_quarter positive divisor).trans
          (mul_le_mul_of_nonneg_right bounded (by norm_num))
        obtain ⟨scaled, divided, -⟩ := div_near (by linarith) (le_greatest small)
        refine ⟨scaled, ?_⟩
        rw [if_pos near, found, Option.bind_eq_bind, Option.bind_some, if_neg (by omega), divided]
      · rw [if_neg near]
        split
        · exact ⟨value, rfl⟩
        · -- one division by the greatest power leaves a small number and a smaller divisor
          obtain ⟨power, found, low, -⟩ := powerOfTen_near (le_refl greatestPowerOfTen)
          have limit := ten_le_limit
          have divisor : 0 < power.magnitude := by linarith
          have quotient : value.magnitude / power.magnitude ≤ 5 / 4 := by
            rw [div_le_iff₀ divisor]
            linarith
          have small : value.magnitude / power.magnitude ≤ 10 ^ greatestPowerOfTen * (5 / 4) := by
            linarith
          obtain ⟨smaller, divided, closeTo⟩ := div_near divisor (le_greatest small)
          have tiny : (2 : ℚ) ^ leastExponent ≤ 1 := zpow_le_one_of_nonpos₀ one_le_two (by decide)
          have fits : smaller.magnitude ≤ 10 ^ greatestPowerOfTen := by
            have upper := (abs_le.mp closeTo).2
            linarith
          rw [dif_neg (by omega), found, Option.bind_eq_bind, Option.bind_some, divided,
            Option.bind_some]
          unfold greatestPowerOfTen at near ⊢
          exact ih _ (by omega) smaller (by omega) fits rfl

theorem scaleByTen_up {value : Double} {exponent : Int} (upward : 0 ≤ exponent)
    (filled : value.isZero = false → 1 / 2 ≤ value.magnitude)
    (bounded : value.magnitude * 10 ^ exponent ≤ 10 ^ greatestPowerOfTen * (9 / 8)) :
    ∃ scaled, value.scaleByTen exponent = some scaled := by
  obtain ⟨power, rfl⟩ := Int.eq_ofNat_of_zero_le upward
  rw [zpow_natCast] at bounded
  have positive := value.magnitude_nonneg
  rw [scaleByTen, Int.natAbs_natCast]
  by_cases near : power ≤ greatestPowerOfTen
  · obtain ⟨factor, found, -, high⟩ := powerOfTen_near near
    have limit := ten_le_limit
    have small : value.magnitude * factor.magnitude ≤ 10 ^ greatestPowerOfTen * (5 / 4) :=
      calc value.magnitude * factor.magnitude
          ≤ value.magnitude * (10 ^ power * (1 + 1 / 2 ^ 51)) :=
            mul_le_mul_of_nonneg_left high positive
        _ = value.magnitude * 10 ^ power * (1 + 1 / 2 ^ 51) := (mul_assoc _ _ _).symm
        _ ≤ 10 ^ greatestPowerOfTen * (9 / 8) * (1 + 1 / 2 ^ 51) :=
            mul_le_mul_of_nonneg_right bounded (by norm_num)
        _ ≤ 10 ^ greatestPowerOfTen * (5 / 4) := by linarith
    obtain ⟨scaled, multiplied, -⟩ := mul_near (le_greatest small)
    refine ⟨scaled, ?_⟩
    rw [if_pos near, found, Option.bind_eq_bind, Option.bind_some, if_pos upward, multiplied]
  · rw [if_neg near]
    split
    · exact ⟨value, rfl⟩
    · -- beyond the greatest power only zero stays in range
      rename_i notZero
      exfalso
      have half := filled (Bool.eq_false_iff.mpr notZero)
      have beyond : (10 : ℚ) ^ greatestPowerOfTen * 10 ≤ 10 ^ power := by
        rw [← pow_succ]
        exact pow_le_pow_right₀ (by norm_num) (Nat.lt_of_not_le near)
      have limit := ten_le_limit
      have product : 1 / 2 * (10 ^ greatestPowerOfTen * 10) ≤ value.magnitude * (10 : ℚ) ^ power :=
        mul_le_mul half beyond (by positivity) positive
      linarith

/-- A whole number times a power of ten has a double up to the greatest power of ten. -/
theorem exists_scaled {significand : Nat}
    (fits : (significand : ℚ) * 2 ≤ 10 ^ greatestPowerOfTen) {exponent : Int}
    (bounded : (significand : ℚ) * 10 ^ exponent ≤ 10 ^ greatestPowerOfTen) :
    ∃ value scaled, ofNat significand = some value ∧ value.scaleByTen exponent = some scaled := by
  have limit := ten_le_limit
  rcases Nat.eq_zero_or_pos significand with rfl | filled
  · have nothing : (zero false).magnitude = 0 := by
      rw [magnitude, zero, Nat.cast_zero, zero_mul]
    refine ⟨zero false, ?_⟩
    rcases lt_or_ge exponent 0 with downward | upward
    · obtain ⟨scaled, found⟩ := scaleByTen_down (zero false) downward (by rw [nothing]; linarith)
      exact ⟨scaled, rfl, found⟩
    · obtain ⟨scaled, found⟩ := scaleByTen_up upward
        (fun impossible : (zero false).isZero = false => nomatch impossible)
        (by rw [nothing, zero_mul]; linarith)
      exact ⟨scaled, rfl, found⟩
  · have whole : (1 : ℚ) ≤ significand := by exact_mod_cast filled
    have room : (significand : ℚ) ≤ 10 ^ greatestPowerOfTen := by linarith
    obtain ⟨value, found, near⟩ := ofNat_near room
    obtain ⟨low, high⟩ := near.share whole
    refine ⟨value, ?_⟩
    rcases lt_or_ge exponent 0 with downward | upward
    · obtain ⟨scaled, divided⟩ := scaleByTen_down value downward (by linarith)
      exact ⟨scaled, found, divided⟩
    · have product : value.magnitude * 10 ^ exponent ≤ 10 ^ greatestPowerOfTen * (9 / 8) :=
        calc value.magnitude * 10 ^ exponent
            ≤ significand * (1 + 1 / 2 ^ 51) * 10 ^ exponent :=
              mul_le_mul_of_nonneg_right high (by positivity)
          _ = significand * 10 ^ exponent * (1 + 1 / 2 ^ 51) := mul_right_comm _ _ _
          _ ≤ 10 ^ greatestPowerOfTen * (1 + 1 / 2 ^ 51) :=
              mul_le_mul_of_nonneg_right bounded (by norm_num)
          _ ≤ 10 ^ greatestPowerOfTen * (9 / 8) := by linarith
      obtain ⟨scaled, multiplied⟩ := scaleByTen_up upward (fun _ => by linarith) product
      exact ⟨scaled, found, multiplied⟩

end SignedRest.Double
