import Primer.Grammar.Expression
import Primer.Proofs.Number.Spelling
import Primer.Proofs.Token.WellFormed

/-!
# Reading the literals of tokens

The readers of numbers and of quoted text take more than the language writes: blanks around a numeral,
digits of other scripts, underscores between digits. On the literal of a well-formed token they give the
value that the literal is the text of, and an integer is refused only for its length.
-/

namespace Primer

/-! ## Plain characters -/

/-- Whether a character can stand in the literal of a number. -/
def isNumberChar (c : Char) : Bool :=
  c.isDigit || c == '-' || c == '.'

namespace Text

theorem toNat_of_isNumberChar {c : Char} (plain : isNumberChar c) : 45 ≤ c.toNat ∧ c.toNat ≤ 57 := by
  simp only [isNumberChar, Bool.or_eq_true, beq_iff_eq] at plain
  rcases plain with (digit | rfl) | rfl
  · have := toNat_of_isDigit digit
    omega
  · decide
  · decide

theorem not_isBlank_of_isNumberChar {c : Char} (plain : isNumberChar c) : isBlank c = false := by
  have := toNat_of_isNumberChar plain
  simp [isBlank]
  omega

theorem map_plainDigit_of_isNumberChar {cs : List Char} (plain : ∀ c ∈ cs, isNumberChar c) :
    cs.map plainDigit = cs := by
  have keep : ∀ c ∈ cs, plainDigit c = c := by
    intro c mem
    have := toNat_of_isNumberChar (plain c mem)
    exact plainDigit_of_lt (by omega)
  rw [List.map_congr_left keep, List.map_id']

end Text

/-! ## Numbers -/

namespace Lexeme

theorem IsWhole.forall_isDigit {ds : List Char} (whole : IsWhole ds) : ∀ d ∈ ds, d.isDigit := by
  cases whole with
  | zero => simp
  | digits first _ others => exact List.forall_mem_cons.mpr ⟨first, others⟩

theorem IsWhole.ne_nil {ds : List Char} (whole : IsWhole ds) : ds ≠ [] := by
  cases whole <;> simp

theorem isNumberChar_of_isDigit {c : Char} (digit : c.isDigit) : isNumberChar c := by
  simp [isNumberChar, digit]

theorem IntegerOf.forall_isNumberChar {cs : List Char} {n : Int} (shape : IntegerOf cs n) :
    ∀ c ∈ cs, isNumberChar c := by
  cases shape with
  | plain whole => exact fun c mem => isNumberChar_of_isDigit (whole.forall_isDigit c mem)
  | minus whole =>
    refine List.forall_mem_cons.mpr ⟨rfl, ?_⟩
    exact fun c mem => isNumberChar_of_isDigit (whole.forall_isDigit c mem)

theorem DecimalOf.forall_isNumberChar {cs : List Char} {d : Decimal} (shape : DecimalOf cs d) :
    ∀ c ∈ cs, isNumberChar c := by
  have unsigned : ∀ {ws ds : List Char}, IsWhole ws → IsFraction ds →
      ∀ c ∈ ws ++ '.' :: ds, isNumberChar c := by
    intro ws ds whole fraction c mem
    rcases List.mem_append.mp mem with inWhole | inRest
    · exact isNumberChar_of_isDigit (whole.forall_isDigit c inWhole)
    · rcases List.mem_cons.mp inRest with rfl | inFraction
      · rfl
      · exact isNumberChar_of_isDigit (fraction.2 c inFraction)
  cases shape with
  | plain whole fraction => exact unsigned whole fraction
  | minus whole fraction => exact List.forall_mem_cons.mpr ⟨rfl, unsigned whole fraction⟩

/-- The numeral of a decimal token has digits on both sides of the point and no power of ten. -/
theorem DecimalOf.exists_spelling {cs : List Char} {d : Decimal} (shape : DecimalOf cs d) :
    ∃ s : Spelling, s.chars = cs ∧ s.decimal = d ∧ IsWhole s.whole ∧ s.fraction ≠ [] ∧ s.power = none := by
  have spelled : ∀ (negative : Bool) {ws ds : List Char}, IsWhole ws → IsFraction ds →
      ∃ s : Spelling, s.negative = negative ∧ s.body = ws ++ '.' :: ds ∧
        s.decimal = ⟨negative, Numeral.value (ws ++ ds), -(ds.length : Int)⟩ ∧
        IsWhole s.whole ∧ s.fraction ≠ [] ∧ s.power = none := by
    intro negative ws ds whole fraction
    refine ⟨⟨negative, ws, ds, none, whole.ne_nil, whole.forall_isDigit, fraction.2⟩, rfl, ?_, ?_, whole, fraction.1, rfl⟩
    · simp [Spelling.body, Spelling.fractionChars, Spelling.powerChars, fraction.1]
    · simp [Spelling.decimal]
  cases shape with
  | plain whole fraction =>
    obtain ⟨s, negative, body, decimal, parts⟩ := spelled false whole fraction
    exact ⟨s, by rw [Spelling.chars, negative, body]; rfl, decimal, parts⟩
  | minus whole fraction =>
    obtain ⟨s, negative, body, decimal, parts⟩ := spelled true whole fraction
    exact ⟨s, by rw [Spelling.chars, negative, body]; rfl, decimal, parts⟩

end Lexeme

namespace Numeral

theorem ungroup?_of_digits {ds : List Char} (nonempty : ds ≠ []) (digits : ∀ d ∈ ds, d.isDigit) :
    ungroup? ds = some ds := by
  fun_induction ungroup? ds with
  | case1 => exact absurd rfl nonempty
  | case2 c isDigit => rfl
  | case3 c notDigit => exact absurd (digits c List.mem_cons_self) notDigit
  | case4 c cs isDigit ih => exact absurd (digits '_' (by simp)) (by decide)
  | case5 c cs notDigit => exact absurd (digits c List.mem_cons_self) notDigit
  | case6 c cs single grouped isDigit ih =>
    have more : cs ≠ [] := by
      rintro rfl
      exact single rfl
    rw [ih more fun d mem => digits d (List.mem_cons_of_mem c mem)]
    rfl
  | case7 c cs single grouped notDigit => exact absurd (digits c List.mem_cons_self) notDigit

theorem sign_of_digits {ds : List Char} (digits : ∀ d ∈ ds, d.isDigit) : sign ds = (false, ds) := by
  cases ds with
  | nil => rfl
  | cons c cs => exact sign_of_isDigit (digits c List.mem_cons_self)

theorem write?_eq_none_iff {n : Int} : write? n = none ↔ Nat.pow 10 digitLimit ≤ n.natAbs := by
  unfold write?
  generalize Nat.pow 10 digitLimit = bound
  split
  next short => exact ⟨fun written => (nomatch written), fun long => absurd short (Nat.not_lt_of_le long)⟩
  next long => exact ⟨fun _ => Nat.le_of_not_lt long, fun _ => rfl⟩

/-- An integer is less than the power of ten that its numeral has digits for. -/
theorem natAbs_lt_of_integerOf {cs : List Char} {n : Int} {limit : Nat} (shape : Lexeme.IntegerOf cs n)
    (short : cs.countP Char.isDigit ≤ limit) : n.natAbs < Nat.pow 10 limit := by
  have bounded : ∀ {ds : List Char}, Lexeme.IsWhole ds → ds.countP Char.isDigit ≤ limit →
      value ds < Nat.pow 10 limit := by
    intro ds whole short
    rw [List.countP_eq_length.mpr whole.forall_isDigit] at short
    exact Nat.lt_of_lt_of_le (value_lt whole.forall_isDigit) (Nat.pow_le_pow_right (by decide) short)
  cases shape with
  | plain whole =>
    rw [Int.natAbs_natCast]
    exact bounded whole short
  | minus whole =>
    rw [Int.natAbs_neg, Int.natAbs_natCast]
    rw [List.countP_cons_of_neg (by decide)] at short
    exact bounded whole short

theorem read_eq_of_integerOf {cs : List Char} {n : Int} (shape : Lexeme.IntegerOf cs n) :
    read cs = if cs.countP Char.isDigit ≤ digitLimit then .ok n else .error .tooLong := by
  have bare : Text.dropEnds isMargin cs = cs := by
    apply Text.dropEnds_of_none
    intro c mem
    simp [isMargin, Text.not_isBlank_of_isNumberChar (shape.forall_isNumberChar c mem)]
  rw [read, bare, Text.map_plainDigit_of_isNumberChar shape.forall_isNumberChar]
  cases shape with
  | plain whole =>
    have count : cs.countP Char.isDigit = cs.length := List.countP_eq_length.mpr whole.forall_isDigit
    simp only [sign_of_digits whole.forall_isDigit, ungroup?_of_digits whole.ne_nil whole.forall_isDigit,
      count, gt_iff_lt, ← Nat.not_le]
    split <;> simp_all
  | @minus ds whole =>
    have count : ('-' :: ds).countP Char.isDigit = ds.length := by
      rw [List.countP_cons_of_neg (by decide)]
      exact List.countP_eq_length.mpr whole.forall_isDigit
    simp only [sign, ungroup?_of_digits whole.ne_nil whole.forall_isDigit, count, gt_iff_lt, ← Nat.not_le]
    split <;> simp_all

/-- The numeral of an integer token is read as its value unless it has too many digits. -/
theorem read_of_integerOf {cs : List Char} {n : Int} (shape : Lexeme.IntegerOf cs n)
    (short : cs.countP Char.isDigit ≤ digitLimit) : read cs = .ok n := by
  rw [read_eq_of_integerOf shape, if_pos short]

theorem eq_of_read_of_integerOf {cs : List Char} {m n : Int} (shape : Lexeme.IntegerOf cs n)
    (read : read cs = .ok m) : m = n := by
  rw [read_eq_of_integerOf shape] at read
  split at read
  next => exact (Except.ok.inj read).symm
  next => cases read

end Numeral

namespace Decimal

/-- The numeral of a decimal token is read as its value. -/
theorem read?_of_decimalOf {cs : List Char} {d : Decimal} (shape : Lexeme.DecimalOf cs d) :
    read? cs = some d := by
  obtain ⟨s, rfl, rfl, -⟩ := shape.exists_spelling
  exact s.read?_chars

end Decimal

/-! ## Quoted text -/

namespace Text

theorem unescape_spells {quote : Char} {us : List Char} {c : Char} (spelled : Lexeme.Spells quote us c)
    (vs : List Char) : unescape (us ++ vs) = c :: unescape vs := by
  cases spelled with
  | plain inside unescaped sameLine =>
    rw [List.singleton_append, unescape]
    intro d rest same
    exact absurd same unescaped
  | escape meaning => simp [unescape, meaning]

/-- What is spelled between quotes is the text that the literal stands for. -/
theorem unescape_spellsAll {quote : Char} {us cs : List Char} (spelled : Lexeme.SpellsAll quote us cs) :
    unescape us = cs := by
  induction spelled with
  | nil => rfl
  | cons first _ ih => rw [unescape_spells first, ih]

end Text

namespace Reading

/-- The inside of a string literal stands for the text that the literal is of. -/
theorem unescape_inner_of_stringOf {literal : String} {cs : List Char}
    (shape : Lexeme.StringOf literal.toList cs) : Text.unescape (inner literal) = cs := by
  generalize spelled : literal.toList = ds at shape
  cases shape with
  | quoted inside =>
    simp only [inner, spelled, List.cons_append, List.drop_one, List.tail_cons, List.dropLast_concat]
    exact Text.unescape_spellsAll inside

/-- The inside of a character literal stands for the one character that the literal is of. -/
theorem unescape_inner_of_characterOf {literal : String} {c : Char}
    (shape : Lexeme.CharacterOf literal.toList c) : Text.unescape (inner literal) = [c] := by
  generalize spelled : literal.toList = ds at shape
  cases shape with
  | quoted inside =>
    simp only [inner, spelled, List.cons_append, List.drop_one, List.tail_cons, List.dropLast_concat]
    have read := Text.unescape_spells inside []
    rwa [List.append_nil] at read

end Reading

end Primer
