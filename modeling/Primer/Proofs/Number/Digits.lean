import Mathlib.Algebra.Group.Nat.Defs
import Mathlib.Data.List.Induction
import Primer.Number.Numeral

/-!
# Strings of digits

The digits of a number have no zeros in front, but digits that are written may have them. With its length given,
a string of digits is determined by its value (`Numeral.eq_of_value_eq`): it is the digits of that value behind as
many zeros as are left (`Numeral.replicate_append_digits`). How many zeros stand in front can be told from the
value (`Numeral.value_lt_iff`).
-/

namespace Primer

theorem Text.toNat_of_isDigit {c : Char} (digit : c.isDigit) : 48 ≤ c.toNat ∧ c.toNat ≤ 57 := by
  simp only [Char.isDigit, Bool.and_eq_true, decide_eq_true_eq] at digit
  exact digit

namespace Numeral

theorem digits_ne_nil (n : Nat) : digits n ≠ [] :=
  Nat.toDigits_ne_nil

theorem isDigit_of_mem_digits {n : Nat} : ∀ c ∈ digits n, c.isDigit :=
  fun _ mem => Nat.isDigit_of_mem_toDigits (by decide) (by decide) mem

theorem isDigit_of_mem_zeros {k : Nat} : ∀ c ∈ List.replicate k '0', c.isDigit := by
  intro c mem
  rw [List.eq_of_mem_replicate mem]
  rfl

@[simp]
theorem value_digits (n : Nat) : value (digits n) = n :=
  Nat.ofDigitChars_ten_toDigits

theorem length_digits_le_iff {n k : Nat} (pos : 0 < k) : (digits n).length ≤ k ↔ n < 10 ^ k :=
  Nat.length_toDigits_le_iff (by decide) pos

theorem value_append (cs ds : List Char) : value (cs ++ ds) = 10 ^ ds.length * value cs + value ds := by
  rw [value, Nat.ofDigitChars_append, Nat.ofDigitChars_eq_ofDigitChars_zero]
  rfl

theorem value_cons (c : Char) (cs : List Char) : value (c :: cs) = 10 ^ cs.length * (c.toNat - 48) + value cs := by
  rw [← List.singleton_append, value_append]
  congr 2
  exact Nat.zero_add _

/-- Digits stand for less than the power of ten that they are the digits below. -/
theorem value_lt {ds : List Char} (digits : ∀ d ∈ ds, d.isDigit) : value ds < 10 ^ ds.length := by
  induction ds with
  | nil => decide
  | cons c ds ih =>
    have digit := Text.toNat_of_isDigit (digits c List.mem_cons_self)
    have rest := ih fun d mem => digits d (List.mem_cons_of_mem c mem)
    have first : 10 ^ ds.length * (c.toNat - 48) ≤ 10 ^ ds.length * 9 := Nat.mul_le_mul_left _ (by omega)
    rw [value_cons, List.length_cons, Nat.pow_succ]
    omega

theorem value_replicate_append (k : Nat) (ds : List Char) : value (List.replicate k '0' ++ ds) = value ds := by
  have zero : value (List.replicate k '0') = 0 := Nat.ofDigitChars_replicate_zero.trans (Nat.mul_zero _)
  rw [value_append, zero, Nat.mul_zero, Nat.zero_add]

theorem value_concat (cs : List Char) (c : Char) : value (cs ++ [c]) = 10 * value cs + (c.toNat - 48) := by
  rw [value_append, value_cons]
  exact congrArg (10 * value cs + ·) (Nat.one_mul _)

/-- Strings of digits of one length that have one value are the same. -/
theorem eq_of_value_eq {cs ds : List Char} (left : ∀ c ∈ cs, c.isDigit) (right : ∀ d ∈ ds, d.isDigit)
    (long : cs.length = ds.length) (same : value cs = value ds) : cs = ds := by
  -- The last digit is the rest of the value by ten, so the strings are taken apart from the end.
  induction cs using List.reverseRecOn generalizing ds with
  | nil => exact (List.length_eq_zero_iff.mp long.symm).symm
  | append_singleton cs c ih =>
    cases ds using List.reverseRecOn with
    | nil => simp at long
    | append_singleton ds d =>
      have last := Text.toNat_of_isDigit (left c (by simp))
      have last' := Text.toNat_of_isDigit (right d (by simp))
      rw [value_concat, value_concat] at same
      have others : cs = ds := by
        apply ih (fun c mem => left c (by simp [mem])) (fun d mem => right d (by simp [mem])) (by simpa using long)
        omega
      have sameLast : c = d := Char.toNat_inj.mp (by omega)
      rw [others, sameLast]

/-- Digits that are written are those of their value, behind zeros. -/
theorem replicate_append_digits {cs : List Char} (nonempty : cs ≠ []) (isDigit : ∀ c ∈ cs, c.isDigit) :
    List.replicate (cs.length - (digits (value cs)).length) '0' ++ digits (value cs) = cs := by
  have short : (digits (value cs)).length ≤ cs.length :=
    (length_digits_le_iff (List.length_pos_iff.mpr nonempty)).mpr (value_lt isDigit)
  apply eq_of_value_eq
  · exact List.forall_mem_append.mpr ⟨isDigit_of_mem_zeros, isDigit_of_mem_digits⟩
  · exact isDigit
  · rw [List.length_append, List.length_replicate, Nat.sub_add_cancel short]
  · rw [value_replicate_append, value_digits]

/-- Digits with no zero in front are those of their value. -/
theorem digits_value {c : Char} {cs : List Char} (isDigit : ∀ d ∈ c :: cs, d.isDigit) (nonzero : c ≠ '0') :
    digits (value (c :: cs)) = c :: cs := by
  have written := replicate_append_digits (List.cons_ne_nil c cs) isDigit
  generalize (c :: cs).length - (digits (value (c :: cs))).length = zeros at written
  cases zeros with
  | zero => exact written
  | succ k => exact absurd (List.cons.inj written).1.symm nonzero

theorem value_eq_zero_iff {ds : List Char} (isDigit : ∀ d ∈ ds, d.isDigit) : value ds = 0 ↔ ∀ d ∈ ds, d = '0' := by
  have zeros : value (List.replicate ds.length '0') = 0 := by
    rw [← List.append_nil (List.replicate _ _), value_replicate_append]
    rfl
  constructor
  · intro zero
    have same : ds = List.replicate ds.length '0' := by
      apply eq_of_value_eq isDigit isDigit_of_mem_zeros
      · rw [List.length_replicate]
      · rw [zero, zeros]
    intro d mem
    rw [same] at mem
    exact List.eq_of_mem_replicate mem
  · intro all
    rw [List.eq_replicate_of_mem all, zeros]

/-- A value is below a power of ten just if all digits in front of so many are zeros. -/
theorem value_lt_iff {ds : List Char} {k : Nat} (isDigit : ∀ d ∈ ds, d.isDigit) (le : k ≤ ds.length) :
    value ds < 10 ^ k ↔ ∀ d ∈ ds.take (ds.length - k), d = '0' := by
  rw [← value_eq_zero_iff fun d mem => isDigit d (List.mem_of_mem_take mem)]
  have behind := value_lt fun d mem => isDigit d (List.mem_of_mem_drop (i := ds.length - k) mem)
  have split := value_append (ds.take (ds.length - k)) (ds.drop (ds.length - k))
  rw [List.take_append_drop] at split
  rw [List.length_drop, Nat.sub_sub_self le] at behind split
  rw [split]
  constructor
  · intro less
    by_contra nonzero
    have atLeast := Nat.mul_le_mul_left (10 ^ k) (Nat.pos_of_ne_zero nonzero)
    omega
  · intro zero
    rw [zero]
    omega

end Numeral

end Primer
