import Mathlib.Algebra.Order.Field.Power
import Mathlib.Algebra.Order.Field.Rat
import Mathlib.Tactic.Linarith
import Mathlib.Tactic.Ring
import Primer.Value.Operators

/-!
# Exact arithmetic of decimals

`Decimal.toRat` is the number that a decimal stands for. It forgets two things that are shown and compared: the
exponent, and the sign of a zero.

**The law** (`decimal_arithmetic_is_exact`): sums, differences and products of decimals are those of the numbers,
and the exponents and the signs of zeros go by rules of their own. As the sign of any other decimal is that of its
number, nothing about the results is left open.
-/

namespace Primer

namespace Decimal

/-- The factor that a sign stands for, a minus if it is true. -/
def signFactor : Bool → ℚ
  | true => -1
  | false => 1

/-- The number that a decimal stands for. -/
def toRat (d : Decimal) : ℚ :=
  signFactor d.negative * d.coefficient * 10 ^ d.exponent

/-- That a decimal is a zero with this sign, at whatever exponent. -/
def IsZero (negative : Bool) (d : Decimal) : Prop :=
  d.coefficient = 0 ∧ d.negative = negative

theorem signFactor_not (negative : Bool) : signFactor (!negative) = -signFactor negative := by
  cases negative <;> simp [signFactor]

theorem signFactor_xor (left right : Bool) : signFactor (left ^^ right) = signFactor left * signFactor right := by
  cases left <;> cases right <;> simp [signFactor]

theorem abs_signFactor (negative : Bool) : |signFactor negative| = 1 := by
  cases negative <;> simp [signFactor]

theorem toRat_eq_signed (d : Decimal) : d.toRat = d.signed * 10 ^ d.exponent := by
  obtain ⟨negative, coefficient, exponent⟩ := d
  cases negative <;> simp [toRat, signed, signFactor]

theorem toRat_ofSigned (n exponent : Int) : (ofSigned n exponent).toRat = n * 10 ^ exponent := by
  have signed_ofSigned : (ofSigned n exponent).signed = n := by
    simp only [signed, ofSigned, decide_eq_true_eq]
    split <;> omega
  rw [toRat_eq_signed, signed_ofSigned]
  rfl

theorem toRat_eq_zero_iff {d : Decimal} : d.toRat = 0 ↔ d.coefficient = 0 := by
  have power : (10 : ℚ) ^ d.exponent ≠ 0 := zpow_ne_zero _ (by norm_num)
  have sign : signFactor d.negative ≠ 0 := by
    intro zero
    simpa [zero] using abs_signFactor d.negative
  simp [toRat, power, sign]

theorem toRat_nonpos {d : Decimal} (negative : d.negative = true) : d.toRat ≤ 0 := by
  have magnitude : (0 : ℚ) ≤ d.coefficient * 10 ^ d.exponent := by positivity
  have value : d.toRat = -(d.coefficient * 10 ^ d.exponent) := by
    rw [toRat, negative, signFactor]
    ring
  linarith

theorem toRat_neg (d : Decimal) : d.neg.toRat = -d.toRat := by
  simp only [toRat, neg, signFactor_not]
  ring

/-! ## Sums -/

/-- At a smaller exponent the coefficient is greater, and the number is the same. -/
theorem scaledTo_mul {d : Decimal} {exponent : Int} (le : exponent ≤ d.exponent) :
    (d.scaledTo exponent : ℚ) * 10 ^ exponent = d.toRat := by
  obtain ⟨k, rest⟩ := Int.eq_ofNat_of_zero_le (Int.sub_nonneg_of_le le)
  have split : d.exponent = k + exponent := by omega
  have scaled : d.scaledTo exponent = d.signed * 10 ^ k := by
    rw [scaledTo, rest, Int.toNat_natCast]
    rfl
  rw [scaled, toRat_eq_signed, split, zpow_add₀ (by norm_num), zpow_natCast]
  push_cast
  ring

theorem total_mul (a b : Decimal) :
    ((a.scaledTo (min a.exponent b.exponent) + b.scaledTo (min a.exponent b.exponent) : Int) : ℚ) *
      10 ^ min a.exponent b.exponent = a.toRat + b.toRat := by
  rw [Int.cast_add, add_mul, scaledTo_mul (min_le_left _ _), scaledTo_mul (min_le_right _ _)]

theorem toRat_add (a b : Decimal) : (a.add b).toRat = a.toRat + b.toRat := by
  rw [← total_mul, add]
  split
  next cancels => rw [cancels, Int.cast_zero, zero_mul, toRat_eq_zero_iff]
  next => exact toRat_ofSigned _ _

theorem exponent_add (a b : Decimal) : (a.add b).exponent = min a.exponent b.exponent := by
  rw [add]
  split <;> rfl

/-- A sum that is zero is negative only if there is nothing but negative zeros to add. -/
theorem negative_add_iff {a b : Decimal} (zero : (a.add b).coefficient = 0) :
    (a.add b).negative = true ↔ a.IsZero true ∧ b.IsZero true := by
  have cancels : a.toRat + b.toRat = 0 := by rw [← toRat_add, toRat_eq_zero_iff.mpr zero]
  have sign : (a.add b).negative = (a.negative && b.negative) := by
    rw [add] at zero ⊢
    split at zero
    next total => rw [if_pos total]
    next total => exact absurd (Int.natAbs_eq_zero.mp zero) total
  rw [sign, Bool.and_eq_true]
  constructor
  · rintro ⟨left, right⟩
    -- Two numbers that are not positive add up to zero only if both are zero.
    have noneLeft : a.toRat = 0 := by linarith [toRat_nonpos left, toRat_nonpos right]
    have noneRight : b.toRat = 0 := by linarith
    exact ⟨⟨toRat_eq_zero_iff.mp noneLeft, left⟩, toRat_eq_zero_iff.mp noneRight, right⟩
  · rintro ⟨left, right⟩
    exact ⟨left.2, right.2⟩

/-! ## Differences and products -/

theorem toRat_sub (a b : Decimal) : (a.sub b).toRat = a.toRat - b.toRat := by
  rw [sub, toRat_add, toRat_neg, sub_eq_add_neg]

theorem toRat_mul (a b : Decimal) : (a.mul b).toRat = a.toRat * b.toRat := by
  have sign : signFactor (a.mul b).negative = signFactor a.negative * signFactor b.negative :=
    signFactor_xor a.negative b.negative
  simp only [toRat, sign]
  simp only [mul, zpow_add₀ (by norm_num : (10 : ℚ) ≠ 0), Nat.cast_mul]
  ring

end Decimal

open Decimal in
/-- Sums, differences and products of decimals are exact. A sum has the smaller exponent, and is a negative zero just when
both operands are; a difference is the sum with the opposite; a product adds the exponents, and the signs decide its
sign, also that of a zero. -/
theorem decimal_arithmetic_is_exact (a b : Decimal) :
    (∃ c, Value.arithmetic .add (.dec a) (.dec b) = .ok (.dec c) ∧ c.toRat = a.toRat + b.toRat ∧
      c.exponent = min a.exponent b.exponent ∧
      (c.coefficient = 0 → (c.negative = true ↔ a.IsZero true ∧ b.IsZero true))) ∧
    (∃ c, Value.arithmetic .sub (.dec a) (.dec b) = .ok (.dec c) ∧ c.toRat = a.toRat - b.toRat ∧
      c.exponent = min a.exponent b.exponent ∧
      (c.coefficient = 0 → (c.negative = true ↔ a.IsZero true ∧ b.neg.IsZero true))) ∧
    ∃ c, Value.arithmetic .mul (.dec a) (.dec b) = .ok (.dec c) ∧ c.toRat = a.toRat * b.toRat ∧
      c.exponent = a.exponent + b.exponent ∧ c.negative = (a.negative ^^ b.negative) := by
  refine ⟨⟨a.add b, rfl, toRat_add a b, exponent_add a b, negative_add_iff⟩, ?_, ?_⟩
  · exact ⟨a.sub b, rfl, toRat_sub a b, exponent_add a b.neg, negative_add_iff⟩
  · exact ⟨a.mul b, rfl, toRat_mul a b, rfl, rfl⟩

end Primer
