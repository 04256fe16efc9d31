import Mathlib.Data.List.TakeWhile
import Primer.Proofs.Number.Digits
import Primer.Value.Text

/-!
# How decimals are spelled

The text of a decimal has a sign, digits before and after a point, and perhaps a power of ten. `Spelling` holds
these parts, `Spelling.chars` is the text and `Spelling.decimal` the decimal that the parts stand for.

Two facts meet here. Whatever the parts are, the text is read as the decimal (`Spelling.read?_chars`); and the text
that is shown for a decimal has parts that stand for it (`Decimal.exists_spelling`). Hence the law of this module,
`shown_decimals_read_back`: **a decimal can be read back from what is shown for it**, with its exponent and the sign
of its zero, so that no two decimals are shown alike.
-/

namespace Primer

/-- The parts of the text of a decimal. -/
structure Spelling where
  negative : Bool
  /-- The digits in front of the point. -/
  whole : List Char
  /-- The digits behind the point, which is not written if there are none. -/
  fraction : List Char
  /-- The power of ten, if one is written. -/
  power : Option Int
  whole_ne_nil : whole ≠ []
  isDigit_whole : ∀ c ∈ whole, c.isDigit
  isDigit_fraction : ∀ c ∈ fraction, c.isDigit

namespace Spelling

/-- The point and the digits behind it. -/
def fractionChars (s : Spelling) : List Char :=
  if s.fraction.isEmpty then [] else '.' :: s.fraction

/-- The power of ten with the letter in front. -/
def powerChars : Option Int → List Char
  | none => []
  | some n => 'E' :: (if n < 0 then '-' else '+') :: Numeral.digits n.natAbs

/-- The text without the sign. -/
def body (s : Spelling) : List Char :=
  s.whole ++ (s.fractionChars ++ powerChars s.power)

/-- The text that the parts make up. -/
def chars (s : Spelling) : List Char :=
  if s.negative then '-' :: s.body else s.body

/-- The decimal that the parts stand for. -/
def decimal (s : Spelling) : Decimal where
  negative := s.negative
  coefficient := Numeral.value (s.whole ++ s.fraction)
  exponent := s.power.getD 0 - s.fraction.length

/-- Digits with the point behind the first `k` of them. -/
def cut (negative : Bool) (ds : List Char) (k : Nat) (power : Option Int) (isDigit : ∀ d ∈ ds, d.isDigit)
    (nonempty : ds ≠ []) (pos : 0 < k) : Spelling where
  negative
  whole := ds.take k
  fraction := ds.drop k
  power
  whole_ne_nil := by simp [nonempty, Nat.ne_of_gt pos]
  isDigit_whole _ mem := isDigit _ (List.mem_of_mem_take mem)
  isDigit_fraction _ mem := isDigit _ (List.mem_of_mem_drop mem)

section

variable {negative : Bool} {ds : List Char} {k : Nat} {power : Option Int} (isDigit : ∀ d ∈ ds, d.isDigit)
  (nonempty : ds ≠ []) (pos : 0 < k)

theorem decimal_cut :
    (cut negative ds k power isDigit nonempty pos).decimal =
      ⟨negative, Numeral.value ds, power.getD 0 - (ds.length - k : Nat)⟩ := by
  simp only [decimal, cut, List.take_append_drop, List.length_drop]

theorem body_cut_of_lt (inside : k < ds.length) :
    (cut negative ds k power isDigit nonempty pos).body = ds.take k ++ '.' :: ds.drop k ++ powerChars power := by
  have more : (ds.drop k).isEmpty = false := by
    rw [List.isEmpty_eq_false_iff, ne_eq, List.drop_eq_nil_iff]
    omega
  simp only [body, fractionChars, cut, more, Bool.false_eq_true, if_false, List.append_assoc]

theorem body_cut_of_le (none : ds.length ≤ k) :
    (cut negative ds k power isDigit nonempty pos).body = ds ++ powerChars power := by
  simp only [body, fractionChars, cut, List.take_of_length_le none, List.drop_of_length_le none, List.isEmpty_nil,
    if_true, List.nil_append]

end

end Spelling

/-! ## Reading -/

namespace Text

theorem dropEnds_of_none {sort : Char → Bool} {cs : List Char} (none : ∀ c ∈ cs, sort c = false) :
    dropEnds sort cs = cs := by
  have keep : ∀ ds : List Char, (∀ c ∈ ds, sort c = false) → ds.dropWhile sort = ds := by
    intro ds none
    cases ds with
    | nil => rfl
    | cons d ds => simp [none d List.mem_cons_self]
  rw [dropEnds, keep cs none, dropEnd, keep cs.reverse (by simpa using none), List.reverse_reverse]

end Text

namespace Numeral

theorem sign_of_isDigit {c : Char} {cs : List Char} (digit : c.isDigit) :
    sign (c :: cs) = (false, c :: cs) := by
  unfold sign
  split
  next same =>
    cases same
    exact absurd digit (by decide)
  next same =>
    cases same
    exact absurd digit (by decide)
  next => rfl

end Numeral

namespace Decimal

/-- Text without blanks, underscores and digits of other scripts is read as it is. -/
theorem spelled_eq {cs : List Char} (plain : ∀ c ∈ cs, 0x20 < c.toNat ∧ c.toNat < 0x5F) :
    ((Text.dropEnds Text.isBlank cs).filter (· != '_')).map Text.plainDigit = cs := by
  have bare : Text.dropEnds Text.isBlank cs = cs := by
    apply Text.dropEnds_of_none
    intro c mem
    have := plain c mem
    simp [Text.isBlank]
    omega
  have whole : cs.filter (· != '_') = cs := by
    apply List.filter_eq_self.mpr
    intro c mem
    rw [bne_iff_ne]
    rintro rfl
    exact absurd (plain _ mem).2 (by decide)
  have same : ∀ c ∈ cs, Text.plainDigit c = c := fun c mem =>
    Text.plainDigit_of_lt (Nat.lt_trans (plain c mem).2 (by decide))
  rw [bare, whole, List.map_congr_left same, List.map_id']

end Decimal

namespace Spelling

variable (s : Spelling)

theorem plain_body : ∀ c ∈ s.body, 0x20 < c.toNat ∧ c.toNat < 0x5F := by
  have digit : ∀ {c : Char}, c.isDigit → 0x20 < c.toNat ∧ c.toNat < 0x5F := by
    intro c isDigit
    have := Text.toNat_of_isDigit isDigit
    omega
  have fraction : ∀ c ∈ s.fractionChars, 0x20 < c.toNat ∧ c.toNat < 0x5F := by
    unfold fractionChars
    split
    · simp
    · exact List.forall_mem_cons.mpr ⟨by decide, fun c mem => digit (s.isDigit_fraction c mem)⟩
  have power : ∀ c ∈ powerChars s.power, 0x20 < c.toNat ∧ c.toNat < 0x5F := by
    cases s.power with
    | none => simp [powerChars]
    | some n =>
      refine List.forall_mem_cons.mpr ⟨by decide, List.forall_mem_cons.mpr ⟨?_, ?_⟩⟩
      · split <;> decide
      · exact fun c mem => digit (Numeral.isDigit_of_mem_digits c mem)
  intro c mem
  rcases List.mem_append.mp mem with whole | rest
  · exact digit (s.isDigit_whole c whole)
  · exact (List.mem_append.mp rest).elim (fraction c) (power c)

theorem plain_chars : ∀ c ∈ s.chars, 0x20 < c.toNat ∧ c.toNat < 0x5F := by
  unfold chars
  split
  · exact List.forall_mem_cons.mpr ⟨by decide, s.plain_body⟩
  · exact s.plain_body

theorem sign_chars : Numeral.sign s.chars = (s.negative, s.body) := by
  unfold chars
  split
  next negative => rw [negative]; rfl
  next positive =>
    obtain ⟨c, cs, starts⟩ := List.exists_cons_of_ne_nil s.whole_ne_nil
    have digit : c.isDigit := s.isDigit_whole c (by rw [starts]; exact List.mem_cons_self)
    rw [Bool.not_eq_true] at positive
    rw [positive, body, starts, List.cons_append, Numeral.sign_of_isDigit digit]

theorem readPower?_powerChars (power : Option Int) : Decimal.readPower? (powerChars power) = some (power.getD 0) := by
  cases power with
  | none => rfl
  | some n =>
    have sign : Numeral.sign ((if n < 0 then '-' else '+') :: Numeral.digits n.natAbs) =
        (decide (n < 0), Numeral.digits n.natAbs) := by
      split
      next negative => rw [decide_eq_true negative]; rfl
      next notNegative => rw [decide_eq_false notNegative]; rfl
    have isDigits : (Numeral.digits n.natAbs).all Char.isDigit = true :=
      List.all_eq_true.mpr Numeral.isDigit_of_mem_digits
    simp only [powerChars, Decimal.readPower?, beq_self_eq_true, Bool.true_or, if_true, sign, isDigits, Bool.not_true,
      Bool.or_false, List.isEmpty_iff, Numeral.digits_ne_nil, if_false, Numeral.value_digits, decide_eq_true_eq,
      Option.getD_some, Option.some.injEq]
    split <;> omega

theorem takeWhile_powerChars (power : Option Int) : (powerChars power).takeWhile Char.isDigit = [] := by
  cases power <;> rfl

theorem dropWhile_powerChars (power : Option Int) : (powerChars power).dropWhile Char.isDigit = powerChars power := by
  cases power <;> rfl

theorem readFraction_eq :
    Decimal.readFraction (s.fractionChars ++ powerChars s.power) = (s.fraction, powerChars s.power) := by
  unfold fractionChars
  split
  next none =>
    rw [List.isEmpty_iff.mp none, List.nil_append]
    cases s.power <;> rfl
  next =>
    rw [List.cons_append, Decimal.readFraction, List.takeWhile_append_of_pos s.isDigit_fraction,
      List.dropWhile_append_of_pos s.isDigit_fraction, takeWhile_powerChars, dropWhile_powerChars, List.append_nil]

/-- The digits in front end at the point, at the power or at the end. -/
theorem span_body : s.body.takeWhile Char.isDigit = s.whole ∧
    s.body.dropWhile Char.isDigit = s.fractionChars ++ powerChars s.power := by
  have ends : (s.fractionChars ++ powerChars s.power).takeWhile Char.isDigit = [] ∧
      (s.fractionChars ++ powerChars s.power).dropWhile Char.isDigit = s.fractionChars ++ powerChars s.power := by
    unfold fractionChars
    split
    · exact ⟨takeWhile_powerChars _, dropWhile_powerChars _⟩
    · exact ⟨rfl, rfl⟩
  rw [body, List.takeWhile_append_of_pos s.isDigit_whole, List.dropWhile_append_of_pos s.isDigit_whole, ends.1, ends.2,
    List.append_nil]
  exact ⟨rfl, rfl⟩

/-- A text is read as the decimal that its parts stand for. -/
theorem read?_chars : Decimal.read? s.chars = some s.decimal := by
  rw [Decimal.read?, Decimal.spelled_eq s.plain_chars, s.sign_chars]
  simp only [s.span_body, s.readFraction_eq, readPower?_powerChars, Option.map_some,
    List.isEmpty_eq_false_iff.mpr s.whole_ne_nil, Bool.false_and, Bool.false_eq_true, if_false]
  rfl

end Spelling

/-! ## Showing -/

namespace Decimal

variable {ds : List Char}

/-- The parts of plain text: the digits, with so many zeros in front that one digit at least stands before the
point. -/
theorem exists_plain_spelling (negative : Bool) (nonempty : ds ≠ []) (isDigit : ∀ d ∈ ds, d.isDigit) (places : Nat) :
    ∃ s : Spelling, s.negative = negative ∧ s.body = plainChars ds places ∧
      s.decimal = ⟨negative, Numeral.value ds, -(places : Int)⟩ ∧ s.power = none := by
  have some := List.length_pos_iff.mpr nonempty
  obtain ⟨filled, isFilled⟩ : ∃ filled, filled = List.replicate (places + 1 - ds.length) '0' ++ ds := ⟨_, rfl⟩
  have long : places < filled.length := by
    rw [isFilled, List.length_append, List.length_replicate]
    omega
  have isDigit' : ∀ d ∈ filled, d.isDigit := by
    rw [isFilled]
    exact List.forall_mem_append.mpr ⟨Numeral.isDigit_of_mem_zeros, isDigit⟩
  have value : Numeral.value filled = Numeral.value ds := by rw [isFilled, Numeral.value_replicate_append]
  refine ⟨.cut negative filled (filled.length - places) none isDigit' (List.ne_nil_of_length_pos (by omega)) (by omega),
    rfl, ?_, ?_, rfl⟩
  · rw [plainChars, ← isFilled]
    by_cases none : places = 0
    · have same : filled = ds := by
        rw [isFilled, Nat.sub_eq_zero_of_le (by omega)]
        rfl
      rw [if_pos none, Spelling.body_cut_of_le _ _ _ (by omega), same]
      exact List.append_nil ds
    · rw [if_neg none, Spelling.body_cut_of_lt _ _ _ (by omega)]
      exact List.append_nil _
  · rw [Spelling.decimal_cut, value, Nat.sub_sub_self long.le, Option.getD_none, Int.zero_sub]

/-- The parts of scientific text: one digit stands before the point. -/
theorem exists_scientific_spelling (negative : Bool) (nonempty : ds ≠ []) (isDigit : ∀ d ∈ ds, d.isDigit)
    (power : Int) :
    ∃ s : Spelling, s.negative = negative ∧ s.body = scientificChars ds power ∧
      s.decimal = ⟨negative, Numeral.value ds, power - (ds.length - 1 : Nat)⟩ ∧ s.power = some power ∧
      s.whole.length = 1 := by
  refine ⟨.cut negative ds 1 (some power) isDigit nonempty Nat.one_pos, rfl, ?_, Spelling.decimal_cut _ _ _, rfl, ?_⟩
  · rw [scientificChars]
    by_cases one : ds.length ≤ 1
    · rw [if_pos one, Spelling.body_cut_of_le _ _ _ one]
      rfl
    · rw [if_neg one, Spelling.body_cut_of_lt _ _ _ (by omega)]
      rfl
  · have some := List.length_pos_iff.mpr nonempty
    rw [Spelling.cut, List.length_take]
    omega

/-- The text that is shown for a decimal has parts that stand for it. -/
theorem exists_spelling (d : Decimal) :
    ∃ s : Spelling, s.chars = d.chars ∧ s.decimal = d ∧ (d.isPlain = true → s.power = none) ∧
      (d.isPlain = false → s.power = some d.adjusted ∧ s.whole.length = 1) := by
  have nonempty := Numeral.digits_ne_nil d.coefficient
  have isDigit := Numeral.isDigit_of_mem_digits (n := d.coefficient)
  cases plain : d.isPlain with
  | true =>
    obtain ⟨s, negative, body, decimal, power⟩ := exists_plain_spelling d.negative nonempty isDigit (-d.exponent).toNat
    have atMost : d.exponent ≤ 0 := of_decide_eq_true (Bool.and_eq_true_iff.mp plain).1
    refine ⟨s, ?_, ?_, fun _ => power, fun other => (nomatch other)⟩
    · simp only [Spelling.chars, chars, negative, body, plain, if_true]
    · rw [decimal, Numeral.value_digits, Int.toNat_of_nonneg (by omega), Int.neg_neg]
  | false =>
    obtain ⟨s, negative, body, decimal, power, one⟩ :=
      exists_scientific_spelling d.negative nonempty isDigit d.adjusted
    refine ⟨s, ?_, ?_, fun other => (nomatch other), fun _ => ⟨power, one⟩⟩
    · simp only [Spelling.chars, chars, negative, body, plain, Bool.false_eq_true, if_false]
    · have some := List.length_pos_iff.mpr nonempty
      have exponent : d.adjusted - ((Numeral.digits d.coefficient).length - 1 : Nat) = d.exponent := by
        rw [adjusted, Int.natCast_sub some]
        simp only [Numeral.digits]
        omega
      rw [decimal, Numeral.value_digits, exponent]

theorem read?_chars (d : Decimal) : read? d.chars = some d := by
  obtain ⟨s, shown, decimal, -⟩ := d.exists_spelling
  rw [← shown, s.read?_chars, decimal]

end Decimal

/-- What is shown of a decimal is read as that decimal, with its exponent and the sign of its zero, so no two decimals
are shown alike. -/
theorem shown_decimals_read_back :
    (∀ d : Decimal, ∃ shown, Value.display? (.dec d) = some shown ∧ Decimal.read? shown.toList = some d) ∧
      Function.Injective fun d : Decimal => Value.display? (.dec d) := by
  have readBack : ∀ d : Decimal, Decimal.read? d.text.toList = some d := by
    intro d
    rw [Decimal.text, String.toList_ofList, Decimal.read?_chars]
  constructor
  · exact fun d => ⟨d.text, rfl, readBack d⟩
  · intro d d' alike
    have sameText : d.text = d'.text := Option.some.inj alike
    apply Option.some.inj
    rw [← readBack d, ← readBack d', sameText]

end Primer
