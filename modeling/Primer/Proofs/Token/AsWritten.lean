import Primer.Proofs.Grammar.Completeness

/-!
# Decimals shown as they were written

A decimal literal has a whole part without superfluous zeros, a point and a fraction. It is shown as it was
written, unless the whole part is zero and six zeros stand behind the point in front of other digits
(`Lexeme.IsTiny`); then it is shown in scientific notation.

**The law** (`decimal_literals_shown_as_written`) says so of every decimal token of every text. What decides is how
many digits the coefficient has, which is how many are left behind the zeros in front
(`Spelling.isPlain_decimal_iff`); and if the text is plain, the zeros that are put back in front of the coefficient
are those that were written (`Decimal.plainChars_digits_value`).
-/

namespace Primer

/-- That a decimal is written as zero, point, six zeros and more digits. -/
def Lexeme.IsTiny (literal : List Char) : Prop :=
  ∃ ds, (literal = '0' :: '.' :: ds ∨ literal = '-' :: '0' :: '.' :: ds) ∧ 7 ≤ ds.length ∧ ∀ d ∈ ds.take 6, d = '0'

/-- That a text is the decimal in scientific notation: a digit, perhaps a point with more digits, and a power of
ten. -/
def Decimal.IsScientific (d : Decimal) (cs : List Char) : Prop :=
  ∃ s : Spelling, s.chars = cs ∧ s.decimal = d ∧ s.whole.length = 1 ∧ s.power.isSome

/-- How many digits a value has can be told from the zeros in front of those that were written. -/
theorem Numeral.length_digits_value_le_iff {ds : List Char} {k : Nat} (isDigit : ∀ d ∈ ds, d.isDigit) (pos : 0 < k)
    (le : k ≤ ds.length) : (digits (value ds)).length ≤ k ↔ ∀ d ∈ ds.take (ds.length - k), d = '0' := by
  rw [length_digits_le_iff pos, value_lt_iff isDigit le]

namespace Decimal

open Lexeme (IsWhole IsFraction)

/-- The zeros that plain text has in front of the coefficient's digits are those that were written. -/
theorem plainChars_digits_value {ws ds : List Char} (whole : IsWhole ws) (fraction : IsFraction ds) :
    plainChars (Numeral.digits (Numeral.value (ws ++ ds))) ds.length = ws ++ '.' :: ds := by
  have places : 0 < ds.length := List.length_pos_iff.mpr fraction.1
  have isDigit : ∀ d ∈ ws ++ ds, d.isDigit := List.forall_mem_append.mpr ⟨whole.forall_isDigit, fraction.2⟩
  have nonempty : ws ++ ds ≠ [] := List.append_ne_nil_of_left_ne_nil whole.ne_nil ds
  have written := Numeral.replicate_append_digits nonempty isDigit
  have missing : (ws ++ ds).length - (Numeral.digits (Numeral.value (ws ++ ds))).length =
      ds.length + 1 - (Numeral.digits (Numeral.value (ws ++ ds))).length := by
    cases whole with
    | zero => rw [List.length_append, List.length_singleton, Nat.add_comm]
    | digits _ nonzero _ =>
      rw [List.cons_append] at isDigit ⊢
      rw [Numeral.digits_value isDigit nonzero, List.length_cons, List.length_append]
      omega
  rw [missing] at written
  rw [plainChars, if_neg (Nat.ne_of_gt places)]
  simp only [written, List.length_append, Nat.add_sub_cancel, List.take_left, List.drop_left]

end Decimal

namespace Spelling

variable {s : Spelling}

theorem isDigit_digits (s : Spelling) : ∀ d ∈ s.whole ++ s.fraction, d.isDigit :=
  List.forall_mem_append.mpr ⟨s.isDigit_whole, s.isDigit_fraction⟩

/-- What is written without a power of ten is shown with one if nothing but zeros stands in front of the point and
of the seventh digit behind it. -/
theorem isPlain_decimal_iff (plain : s.power = none) :
    s.decimal.isPlain = false ↔ 7 ≤ s.fraction.length ∧ ∀ d ∈ s.whole ++ s.fraction.take 6, d = '0' := by
  have some := List.length_pos_iff.mpr (Numeral.digits_ne_nil (Numeral.value (s.whole ++ s.fraction)))
  have isFalse : s.decimal.isPlain = false ↔
      (Numeral.digits (Numeral.value (s.whole ++ s.fraction))).length + 6 ≤ s.fraction.length := by
    simp only [Decimal.isPlain, Decimal.adjusted, decimal, plain, Option.getD_none, Bool.and_eq_false_iff,
      decide_eq_false_iff_not, Numeral.digits]
    omega
  rw [isFalse]
  by_cases long : 7 ≤ s.fraction.length
  · have count : (s.whole ++ s.fraction).length - (s.fraction.length - 6) = s.whole.length + 6 := by
      rw [List.length_append]
      omega
    have few := Numeral.length_digits_value_le_iff s.isDigit_digits (k := s.fraction.length - 6) (by omega)
      (by rw [List.length_append]; omega)
    rw [count, List.take_length_add_append] at few
    rw [← few]
    omega
  · exact ⟨fun short => by omega, fun both => absurd both.1 long⟩

theorem mem_chars_of_power {n : Int} (power : s.power = some n) : 'E' ∈ s.chars := by
  have inBody : 'E' ∈ s.body := by
    rw [body, power]
    exact List.mem_append_right _ (List.mem_append_right _ List.mem_cons_self)
  unfold chars
  split
  · exact List.mem_cons_of_mem _ inBody
  · exact inBody

section

variable (whole : Lexeme.IsWhole s.whole) (some : s.fraction ≠ []) (plain : s.power = none)
include some plain

theorem fractionChars_append_powerChars : s.fractionChars ++ powerChars s.power = '.' :: s.fraction := by
  simp [fractionChars, powerChars, some, plain]

include whole

theorem chars_decimal_of_isPlain (isPlain : s.decimal.isPlain = true) : s.decimal.chars = s.chars := by
  have places : (-s.decimal.exponent).toNat = s.fraction.length := by simp [decimal, plain]
  have body := Decimal.plainChars_digits_value whole ⟨some, s.isDigit_fraction⟩
  rw [Decimal.chars, chars, Spelling.body, fractionChars_append_powerChars some plain, ← body]
  simp only [isPlain, if_true, places]
  rfl

/-- Whether a literal is tiny can be told from its parts. -/
theorem isTiny_chars_iff :
    Lexeme.IsTiny s.chars ↔ 7 ≤ s.fraction.length ∧ ∀ d ∈ s.whole ++ s.fraction.take 6, d = '0' := by
  constructor
  · rintro ⟨ds, literal, long, zeros⟩
    have body : s.body = '0' :: '.' :: ds := by
      have sign := s.sign_chars
      rcases literal with literal | literal
      · rw [literal] at sign
        exact (congrArg Prod.snd sign).symm
      · rw [literal] at sign
        exact (congrArg Prod.snd sign).symm
    have parts := s.span_body
    rw [body, fractionChars_append_powerChars some plain] at parts
    have isZero : ['0'] = s.whole := parts.1
    have isFraction : ds = s.fraction := (List.cons.inj parts.2).2
    rw [← isZero, ← isFraction]
    exact ⟨long, List.forall_mem_cons.mpr ⟨rfl, zeros⟩⟩
  · rintro ⟨long, zeros⟩
    obtain ⟨isZero, zeros⟩ := List.forall_mem_append.mp zeros
    have isZero : s.whole = ['0'] := by
      generalize s.whole = ws at whole isZero
      cases whole with
      | zero => rfl
      | digits _ nonzero _ => exact absurd (isZero _ List.mem_cons_self) nonzero
    refine ⟨s.fraction, ?_, long, zeros⟩
    rw [chars, body, fractionChars_append_powerChars some plain, isZero]
    split
    · exact .inr rfl
    · exact .inl rfl

end

end Spelling

/-- A decimal literal is read and shown again as it was written, unless it is tiny: then it is shown with a power of
ten. -/
theorem decimal_literals_shown_as_written {text : List Char} {tokens : List Token} {t : Token}
    (lexed : lex text = .ok tokens) (mem : t ∈ tokens) (isDecimal : t.kind = .decimal) (rest : List Token) :
    ∃ d shown, Rule.primary.parse (t :: rest) = .ok (.expr (.literal (.dec d) t.offset), 1) ∧
      Value.display? (.dec d) = some shown ∧ (¬Lexeme.IsTiny t.literal.toList → shown = t.literal) ∧
      (Lexeme.IsTiny t.literal.toList → d.IsScientific shown.toList ∧ shown ≠ t.literal) := by
  obtain ⟨d, shape⟩ : ∃ d, Lexeme.DecimalOf t.literal.toList d := by
    have wellFormed := lex_wellFormed lexed t mem
    rw [Token.WellFormed, isDecimal] at wellFormed
    exact wellFormed
  have readable : t.Readable := fun isInteger => by cases isDecimal.symm.trans isInteger
  have read := Grammar.parse_primary_of_denotes (.decimal isDecimal shape) readable rest
  obtain ⟨s, literal, rfl, whole, some, plain⟩ := shape.exists_spelling
  have boundary := (s.isTiny_chars_iff whole some plain).trans (s.isPlain_decimal_iff plain).symm
  rw [← literal]
  refine ⟨s.decimal, s.decimal.text, read, rfl, ?_, ?_⟩
  · intro notTiny
    have isPlain : s.decimal.isPlain = true := by
      rw [← Bool.not_eq_false]
      exact fun notPlain => notTiny (boundary.mpr notPlain)
    rw [Decimal.text, s.chars_decimal_of_isPlain whole some plain isPlain, literal, String.ofList_toList]
  · intro tiny
    obtain ⟨s', shown, same, -, scientific⟩ := s.decimal.exists_spelling
    obtain ⟨power, one⟩ := scientific (boundary.mp tiny)
    rw [Decimal.text, ← shown, String.toList_ofList]
    refine ⟨⟨s', rfl, same, one, by rw [power]; rfl⟩, ?_⟩
    -- The letter in front of the power stands in no literal.
    intro asWritten
    have letter : 'E' ∈ t.literal.toList := by
      rw [← asWritten, String.toList_ofList]
      exact Spelling.mem_chars_of_power power
    exact absurd (shape.forall_isNumberChar 'E' letter) (by decide)

/-- Six zeros behind the point are too many for a literal with more digits behind them. -/
theorem tiny_literal_shown_scientifically :
    let t : Token := ⟨.decimal, "-0.00000012", 0⟩
    lex "-0.00000012".toList = .ok [t] ∧ Lexeme.IsTiny t.literal.toList ∧
      Rule.primary.parse [t] = .ok (.expr (.literal (.dec ⟨true, 12, -8⟩) 0), 1) ∧
      Value.display? (.dec ⟨true, 12, -8⟩) = some "-1.2E-7" ∧ Decimal.IsScientific ⟨true, 12, -8⟩ "-1.2E-7".toList := by
  intro t
  have lexed : lex "-0.00000012".toList = .ok [t] := by decide +kernel
  have tiny : Lexeme.IsTiny t.literal.toList :=
    ⟨['0', '0', '0', '0', '0', '0', '1', '2'], .inr (by decide), by decide, by simp⟩
  have displayed : Value.display? (.dec ⟨true, 12, -8⟩) = some "-1.2E-7" := by decide +kernel
  obtain ⟨d, shown, read, displays, -, scientific⟩ :=
    decimal_literals_shown_as_written lexed List.mem_cons_self rfl []
  have read' : Rule.primary.parse [t] = .ok (.expr (.literal (.dec ⟨true, 12, -8⟩) 0), 1) := by cbv
  obtain rfl : d = ⟨true, 12, -8⟩ := by
    cases read.symm.trans read'
    rfl
  obtain rfl : shown = "-1.2E-7" := Option.some.inj (displays.symm.trans displayed)
  exact ⟨lexed, tiny, read', displayed, (scientific tiny).1⟩

end Primer
