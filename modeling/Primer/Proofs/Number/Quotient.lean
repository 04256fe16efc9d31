import Primer.CommandLine.Program
import Primer.Proofs.Number.Exact
import Primer.Proofs.Run.Conduct

/-!
# Quotients

Integers are divided with a rest, and the quotient is cut off toward zero (`IsTruncatedQuotient`). Decimals are
divided at the exponent of the dividend: the quotient is rounded to the nearest decimal with that exponent, and to
the even one of two that are equally near (`Decimal.IsRoundedQuotient`).

**The law** (`division_rounds_right`): an expression that divides one number by another of its kind fails if the
divisor is zero, and only then; else it evaluates to the quotient.

The rounding itself is of two naturals (`Decimal.roundDiv_cases`); the powers of ten go to the dividend or the
divisor, according to the sign of the divisor's exponent (`Decimal.ratio_eq`).
-/

namespace Primer

/-! ## Integers -/

/-- That `q` is the quotient `a / b` cut off toward zero: what is left of `a` is smaller than `b` and has the sign
of `a`. -/
def IsTruncatedQuotient (a b q : Int) : Prop :=
  ∃ r, a = q * b + r ∧ |r| < |b| ∧ (r = 0 ∨ r.sign = a.sign)

theorem isTruncatedQuotient_tdiv (a : Int) {b : Int} (nonzero : b ≠ 0) : IsTruncatedQuotient a b (a.tdiv b) := by
  refine ⟨a.tmod b, (Int.tdiv_mul_add_tmod a b).symm, ?_, ?_⟩
  · have smaller := Nat.mod_lt a.natAbs (Int.natAbs_pos.mpr nonzero)
    rw [Int.abs_eq_natAbs, Int.abs_eq_natAbs, Int.natAbs_tmod]
    exact_mod_cast smaller
  · by_cases divides : b ∣ a
    · exact .inl (Int.tmod_eq_zero_of_dvd divides)
    · exact .inr (by rw [Int.sign_tmod, if_neg divides])

/-! ## Decimals -/

namespace Decimal

/-- That `q` is the quotient `a / b` rounded at the exponent of `a`: no further from it than half a unit of that
exponent, and even if it is as far as that. Its zero has no sign. -/
structure IsRoundedQuotient (a b q : Decimal) : Prop where
  exponent : q.exponent = a.exponent
  near : |q.toRat - a.toRat / b.toRat| ≤ 10 ^ a.exponent / 2
  even : |q.toRat - a.toRat / b.toRat| = 10 ^ a.exponent / 2 → Even q.coefficient
  unsigned : ¬q.IsZero true

/-- Rounding goes down, or up, or, where both are equally near, to the even one. -/
theorem roundDiv_cases (n d : Nat) :
    (roundDiv n d = n / d ∧ 2 * (n % d) < d) ∨ (roundDiv n d = n / d + 1 ∧ d < 2 * (n % d)) ∨
      (Even (roundDiv n d) ∧ 2 * (n % d) = d ∧ (roundDiv n d = n / d ∨ roundDiv n d = n / d + 1)) := by
  rw [roundDiv]
  split
  next less => exact .inl ⟨rfl, less⟩
  next notLess =>
    split
    next more => exact .inr (.inl ⟨rfl, more⟩)
    next notMore =>
      have half : 2 * (n % d) = d := by omega
      split
      next even => exact .inr (.inr ⟨Nat.even_iff.mpr even, half, .inl rfl⟩)
      next odd => exact .inr (.inr ⟨Nat.even_iff.mpr (by omega), half, .inr rfl⟩)

theorem cast_div_eq (n : Nat) {d : Nat} (pos : 0 < d) : (n : ℚ) / d = (n / d : Nat) + (n % d : Nat) / d := by
  have division : (n : ℚ) = d * (n / d : Nat) + (n % d : Nat) := by exact_mod_cast (Nat.div_add_mod n d).symm
  have nonzero : (d : ℚ) ≠ 0 := Nat.cast_ne_zero.mpr pos.ne'
  rw [div_eq_iff nonzero, add_mul, div_mul_cancel₀ _ nonzero, mul_comm]
  exact division

/-- A rounded quotient of naturals is at most a half away, and even if it is a half away. -/
theorem roundDiv_near (n : Nat) {d : Nat} (pos : 0 < d) :
    |(roundDiv n d : ℚ) - n / d| ≤ 1 / 2 ∧ (|(roundDiv n d : ℚ) - n / d| = 1 / 2 → Even (roundDiv n d)) := by
  have pos' : (0 : ℚ) < d := Nat.cast_pos.mpr pos
  rw [cast_div_eq n pos]
  rcases roundDiv_cases n d with ⟨down, less⟩ | ⟨up, more⟩ | ⟨even, half, near⟩
  · have small : ((n % d : Nat) : ℚ) / d < 1 / 2 := by
      rw [div_lt_div_iff₀ pos' two_pos, mul_comm, one_mul]
      exact_mod_cast less
    rw [down, sub_add_cancel_left, abs_neg, abs_of_nonneg (div_nonneg (Nat.cast_nonneg _) pos'.le)]
    exact ⟨small.le, fun half => absurd half small.ne⟩
  · have great : 1 / 2 < ((n % d : Nat) : ℚ) / d := by
      rw [div_lt_div_iff₀ two_pos pos', one_mul, mul_comm]
      exact_mod_cast more
    have below : ((n % d : Nat) : ℚ) / d < 1 := (div_lt_one₀ pos').mpr (by exact_mod_cast Nat.mod_lt n pos)
    rw [up, Nat.cast_add_one, add_sub_add_left_eq_sub, abs_of_pos (sub_pos.mpr below)]
    exact ⟨by linarith, fun half => by linarith⟩
  · have isHalf : ((n % d : Nat) : ℚ) / d = 1 / 2 := by
      rw [div_eq_div_iff pos'.ne' two_ne_zero, mul_comm, one_mul]
      exact_mod_cast half
    refine ⟨?_, fun _ => even⟩
    rcases near with down | up
    · rw [down, isHalf, sub_add_cancel_left, abs_neg, abs_of_pos (by norm_num)]
    · rw [up, isHalf, Nat.cast_add_one, add_sub_add_left_eq_sub]
      norm_num

/-- A power of ten, put together from its parts above and below one. -/
theorem ten_zpow_mul (e : Int) : (10 : ℚ) ^ e * 10 ^ (-e).toNat = 10 ^ e.toNat := by
  rw [← zpow_natCast, ← zpow_natCast, ← zpow_add₀ (by norm_num)]
  congr 1
  omega

/-- The naturals that are divided have the quotient of the numbers, but for the signs and the dividend's power. -/
theorem ratio_eq (a b : Decimal) :
    ((a.coefficient * Nat.pow 10 (-b.exponent).toNat : Nat) : ℚ) / (b.coefficient * Nat.pow 10 b.exponent.toNat : Nat) =
      a.coefficient / (b.coefficient * 10 ^ b.exponent) := by
  have power : (10 : ℚ) ^ (-b.exponent).toNat ≠ 0 := pow_ne_zero _ (by norm_num)
  rw [Nat.pow_eq, Nat.pow_eq, Nat.cast_mul, Nat.cast_mul, Nat.cast_pow, Nat.cast_pow, Nat.cast_ofNat,
    ← ten_zpow_mul b.exponent, ← mul_assoc, mul_div_mul_right _ _ power]

theorem signFactor_inv (negative : Bool) : (signFactor negative)⁻¹ = signFactor negative := by
  cases negative <;> norm_num [signFactor]

/-- How far a decimal with the dividend's exponent and the quotient's sign is from the quotient. -/
theorem abs_sub_quotient (a b : Decimal) (c : Nat) :
    |toRat ⟨(a.negative ^^ b.negative) && c != 0, c, a.exponent⟩ - a.toRat / b.toRat| =
      |(c : ℚ) - a.coefficient / (b.coefficient * 10 ^ b.exponent)| * 10 ^ a.exponent := by
  have sign : signFactor ((a.negative ^^ b.negative) && c != 0) * (c : ℚ) =
      signFactor (a.negative ^^ b.negative) * c := by
    by_cases zero : c = 0
    · simp [zero]
    · rw [bne_iff_ne.mpr zero, Bool.and_true]
  have quotient : a.toRat / b.toRat = signFactor (a.negative ^^ b.negative) *
      (a.coefficient / (b.coefficient * 10 ^ b.exponent)) * 10 ^ a.exponent := by
    simp only [toRat, signFactor_xor, div_eq_mul_inv, mul_inv, signFactor_inv]
    ring
  have unit : |(10 : ℚ) ^ a.exponent| = 10 ^ a.exponent := abs_of_pos (by positivity)
  rw [quotient, toRat, sign, ← sub_mul, ← mul_sub, abs_mul, abs_mul, abs_signFactor, one_mul, unit]

theorem div?_eq_none_iff {a b : Decimal} : a.div? b = none ↔ b.toRat = 0 := by
  rw [toRat_eq_zero_iff, div?]
  split
  next zero => exact ⟨fun _ => zero, fun _ => rfl⟩
  next nonzero => exact ⟨fun none => (nomatch none), fun zero => absurd zero nonzero⟩

theorem isRoundedQuotient_of_div? {a b q : Decimal} (found : a.div? b = some q) : a.IsRoundedQuotient b q := by
  rw [div?] at found
  split at found
  next => cases found
  next nonzero =>
    have pos : 0 < b.coefficient * Nat.pow 10 b.exponent.toNat :=
      Nat.mul_pos (Nat.pos_of_ne_zero nonzero) (Nat.pow_pos (by decide))
    obtain ⟨near, even⟩ := roundDiv_near (a.coefficient * Nat.pow 10 (-b.exponent).toNat) pos
    rw [ratio_eq] at near even
    dsimp only at found
    generalize roundDiv _ _ = c at found near even
    cases found
    have unit : (0 : ℚ) < 10 ^ a.exponent := by positivity
    have halfUnit : (10 : ℚ) ^ a.exponent / 2 = 1 / 2 * 10 ^ a.exponent := by ring
    have distance := abs_sub_quotient a b c
    refine ⟨rfl, ?_, ?_, ?_⟩
    · rw [halfUnit, distance]
      exact mul_le_mul_of_nonneg_right near unit.le
    · intro half
      rw [halfUnit, distance] at half
      exact even (mul_right_cancel₀ unit.ne' half)
    · rintro ⟨zero, negative⟩
      exact bne_iff_ne.mp (Bool.and_eq_true_iff.mp negative).2 zero

end Decimal

/-! ## Evaluating -/

namespace Value

theorem combine_div_int (a b : Int) :
    combine .div (.int a) (.int b) = if b = 0 then .error .divisionByZero else .ok (.int (a.tdiv b)) := by
  change (quotient a b).map Value.int = _
  rw [quotient]
  split <;> rfl

theorem combine_div_dec (a b : Decimal) :
    combine .div (.dec a) (.dec b) = (a.div? b).elim (.error .divisionByZero) fun q => .ok (.dec q) := by
  change (decimalQuotient a b).map Value.dec = _
  rw [decimalQuotient]
  cases a.div? b <;> rfl

end Value

/-- An operation that looks at both operands evaluates the left one and then the right one. -/
theorem Run.evaluate_binary {op : Operator} {fuel calls : Nat} {scope : ScopeId} {left right : Expr} {x y : Value}
    {w w₁ w₂ : World} (plain : op.decisive? = none) (first : evaluate fuel calls scope left w = .ok x w₁)
    (second : evaluate fuel calls scope right w₁ = .ok y w₂) (offset : Nat) (type : Option Ty) :
    evaluate (fuel + 1) calls scope (.binary op left right offset type) w = ofExcept (x.combine op y) w₂ := by
  unfold evaluate Conduct.evaluate
  simp only [plain]
  exact (Conduct.bind_of_eq_ok first _).trans (Conduct.bind_of_eq_ok second _)

/-- **Division.** Whatever two numbers of one kind the operands evaluate to, dividing them fails if the right one is
zero and only then, and else gives the quotient. -/
theorem division_rounds_right {fuel calls : Nat} {scope : ScopeId} {left right : Expr} {x y : Value} {w w₁ w₂ : World}
    (first : Run.evaluate fuel calls scope left w = .ok x w₁)
    (second : Run.evaluate fuel calls scope right w₁ = .ok y w₂) (offset : Nat) (type : Option Ty) :
    let outcome := Run.evaluate (fuel + 1) calls scope (.binary .div left right offset type) w
    (∀ a b : Int, x = .int a → y = .int b →
      (outcome = .error (.fault .divisionByZero) w₂ ↔ b = 0) ∧
      (b ≠ 0 → ∃ q, outcome = .ok (.int q) w₂ ∧ IsTruncatedQuotient a b q)) ∧
    ∀ a b : Decimal, x = .dec a → y = .dec b →
      (outcome = .error (.fault .divisionByZero) w₂ ↔ b.toRat = 0) ∧
      (b.toRat ≠ 0 → ∃ q, outcome = .ok (.dec q) w₂ ∧ a.IsRoundedQuotient b q) := by
  intro outcome
  have evaluated : outcome = Run.ofExcept (x.combine .div y) w₂ := Run.evaluate_binary rfl first second offset type
  rw [evaluated]
  constructor
  · rintro a b rfl rfl
    rw [Value.combine_div_int]
    by_cases zero : b = 0
    · rw [if_pos zero]
      exact ⟨⟨fun _ => zero, fun _ => rfl⟩, fun nonzero => absurd zero nonzero⟩
    · rw [if_neg zero]
      exact ⟨⟨fun failed => (nomatch failed), fun isZero => absurd isZero zero⟩,
        fun nonzero => ⟨_, rfl, isTruncatedQuotient_tdiv a nonzero⟩⟩
  · rintro a b rfl rfl
    rw [Value.combine_div_dec]
    cases found : a.div? b with
    | none =>
      have zero := Decimal.div?_eq_none_iff.mp found
      exact ⟨⟨fun _ => zero, fun _ => rfl⟩, fun nonzero => absurd zero nonzero⟩
    | some q =>
      have nonzero : b.toRat ≠ 0 := fun zero => by cases found.symm.trans (Decimal.div?_eq_none_iff.mpr zero)
      exact ⟨⟨fun failed => (nomatch failed), fun zero => absurd zero nonzero⟩,
        fun _ => ⟨q, rfl, Decimal.isRoundedQuotient_of_div? found⟩⟩

open CommandLine (rootWorld) in
/-- A quotient half way between two negative decimals is the even one. -/
theorem negative_half_divided :
    let left : Expr := .literal (.dec ⟨true, 25, -1⟩) 0
    let right : Expr := .literal (.dec ⟨false, 100, -1⟩) 7
    Run.evaluate 1 0 rootWorld.2 left rootWorld.1 = .ok (.dec ⟨true, 25, -1⟩) rootWorld.1 ∧
      Run.evaluate 1 0 rootWorld.2 right rootWorld.1 = .ok (.dec ⟨false, 100, -1⟩) rootWorld.1 ∧
      Run.evaluate 2 0 rootWorld.2 (.binary .div left right 0) rootWorld.1 = .ok (.dec ⟨true, 2, -1⟩) rootWorld.1 ∧
      Decimal.IsRoundedQuotient ⟨true, 25, -1⟩ ⟨false, 100, -1⟩ ⟨true, 2, -1⟩ := by
  intro left right
  have first : Run.evaluate 1 0 rootWorld.2 left rootWorld.1 = .ok (.dec ⟨true, 25, -1⟩) rootWorld.1 := by
    unfold Run.evaluate Conduct.evaluate
    rfl
  have second : Run.evaluate 1 0 rootWorld.2 right rootWorld.1 = .ok (.dec ⟨false, 100, -1⟩) rootWorld.1 := by
    unfold Run.evaluate Conduct.evaluate
    rfl
  have nonzero : Decimal.toRat ⟨false, 100, -1⟩ ≠ 0 := by
    rw [ne_eq, Decimal.toRat_eq_zero_iff]
    decide
  obtain ⟨q, evaluated, rounded⟩ := ((division_rounds_right first second 0 none).2 _ _ rfl rfl).2 nonzero
  have isEven : Run.evaluate 2 0 rootWorld.2 (.binary .div left right 0) rootWorld.1 =
      .ok (.dec ⟨true, 2, -1⟩) rootWorld.1 := by
    rw [Run.evaluate_binary rfl first second]
    rfl
  obtain rfl : q = ⟨true, 2, -1⟩ := by
    rw [isEven] at evaluated
    cases evaluated
    rfl
  exact ⟨first, second, isEven, rounded⟩

end Primer
