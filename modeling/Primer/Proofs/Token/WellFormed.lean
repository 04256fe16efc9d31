import Primer.Number.Decimal.Text
import Primer.Proofs.Outcome
import Primer.Token.Lexer

/-!
# The shapes of tokens

What the literal of a token looks like is said here apart from the scanning code, one relation for
each kind that stands for a value: the literal on the left, the value it is the text of on the right.
A token is well-formed when its literal has the shape of its kind.

The law of this module is `lex_wellFormed`: **every token of a text is well-formed**. It says nothing
about where tokens begin and end, nor about the blanks between them.
-/

namespace Primer

namespace Lexeme

/-- A whole number without a sign: a zero, or digits that begin with another. -/
inductive IsWhole : List Char → Prop
  | zero : IsWhole ['0']
  | digits {c : Char} {ds : List Char} (first : c.isDigit) (nonzero : c ≠ '0')
      (others : ∀ d ∈ ds, d.isDigit) : IsWhole (c :: ds)

/-- The text of an integer. -/
inductive IntegerOf : List Char → Int → Prop
  | plain {ds : List Char} (whole : IsWhole ds) : IntegerOf ds (Numeral.value ds)
  | minus {ds : List Char} (whole : IsWhole ds) : IntegerOf ('-' :: ds) (-(Numeral.value ds : Int))

/-- The digits after the point of a decimal. -/
def IsFraction (ds : List Char) : Prop :=
  ds ≠ [] ∧ ∀ d ∈ ds, d.isDigit

/-- The text of a decimal, whose exponent counts the digits after the point. -/
inductive DecimalOf : List Char → Decimal → Prop
  | plain {ws ds : List Char} (whole : IsWhole ws) (fraction : IsFraction ds) :
      DecimalOf (ws ++ '.' :: ds)
        { negative := false, coefficient := Numeral.value (ws ++ ds), exponent := -(ds.length : Int) }
  | minus {ws ds : List Char} (whole : IsWhole ws) (fraction : IsFraction ds) :
      DecimalOf ('-' :: ws ++ '.' :: ds)
        { negative := true, coefficient := Numeral.value (ws ++ ds), exponent := -(ds.length : Int) }

/-- How one character is spelled between quotes: as itself, or as an escape. -/
inductive Spells (quote : Char) : List Char → Char → Prop
  | plain {c : Char} (inside : c ≠ quote) (unescaped : c ≠ '\\') (sameLine : c ≠ '\n' ∧ c ≠ '\r') :
      Spells quote [c] c
  | escape {c d : Char} (meaning : Text.escapeMeaning? c = some d) : Spells quote ['\\', c] d

/-- How a text is spelled between quotes. -/
inductive SpellsAll (quote : Char) : List Char → List Char → Prop
  | nil : SpellsAll quote [] []
  | cons {us vs : List Char} {c : Char} {cs : List Char} (first : Spells quote us c)
      (others : SpellsAll quote vs cs) : SpellsAll quote (us ++ vs) (c :: cs)

/-- The text of a character literal. -/
inductive CharacterOf : List Char → Char → Prop
  | quoted {us : List Char} {c : Char} (inside : Spells '\x27' us c) :
      CharacterOf ('\x27' :: us ++ ['\x27']) c

/-- The text of a string literal. -/
inductive StringOf : List Char → List Char → Prop
  | quoted {us cs : List Char} (inside : SpellsAll '\x22' us cs) : StringOf ('\x22' :: us ++ ['\x22']) cs

/-- A word: a letter or an underscore, and letters, digits and underscores after it. -/
inductive IsWord : List Char → Prop
  | word {c : Char} {cs : List Char} (first : isWordStart c) (others : ∀ d ∈ cs, isWordPart d) :
      IsWord (c :: cs)

/-- The symbols of the language. -/
def symbols : List String :=
  ["<=", ">=", "==", "!=", "<", ">", "=", "+", "-", "*", "/", "(", ")", ",", ".", ":", ";"]

end Lexeme

/-- Whether the literal of a token has the shape of its kind. -/
def Token.WellFormed (t : Token) : Prop :=
  match t.kind with
  | .operator => t.literal ∈ reservedWords ∨ t.literal ∈ Lexeme.symbols
  | .identifier => Lexeme.IsWord t.literal.toList ∧ t.literal ∉ reservedWords
  | .integer => ∃ n, Lexeme.IntegerOf t.literal.toList n
  | .decimal => ∃ d, Lexeme.DecimalOf t.literal.toList d
  | .character => ∃ c, Lexeme.CharacterOf t.literal.toList c
  | .string => ∃ cs, Lexeme.StringOf t.literal.toList cs
  | .other _ => False

/-! ## What the lengths measure -/

namespace Lexeme

/-- A run of characters is as long as it is measured, and all of it is of the sort. -/
theorem forall_mem_take_takeWhile (sort : Char → Bool) (cs : List Char) :
    ∀ d ∈ cs.take (cs.takeWhile sort).length, sort d := by
  rw [← List.prefix_iff_eq_take.mp (List.takeWhile_prefix sort)]
  exact List.all_eq_true.mp List.all_takeWhile

theorem isWhole_of_wholeLength? {cs : List Char} {n : Nat} (found : wholeLength? cs = some n) :
    IsWhole (cs.take n) := by
  cases cs with
  | nil => simp [wholeLength?] at found
  | cons c cs =>
    simp only [wholeLength?] at found
    split at found
    next isZero =>
      cases found
      rw [eq_of_beq isZero]
      exact .zero
    next isOther =>
      split at found
      next isDigit =>
        cases found
        rw [Nat.add_comm, List.take_succ_cons]
        exact .digits isDigit (by simpa using isOther) (forall_mem_take_takeWhile _ cs)
      next => cases found

theorem integerOf_of_integerLength? {cs : List Char} {n : Nat} (found : integerLength? cs = some n) :
    ∃ v, IntegerOf (cs.take n) v := by
  unfold integerLength? at found
  split at found
  next rest =>
    obtain ⟨m, measured, rfl⟩ := Option.map_eq_some_iff.mp found
    rw [Nat.add_comm, List.take_succ_cons]
    exact ⟨_, .minus (isWhole_of_wholeLength? measured)⟩
  next => exact ⟨_, .plain (isWhole_of_wholeLength? found)⟩

theorem isFraction_of_fractionLength? {cs : List Char} {n : Nat} (found : fractionLength? cs = some n) :
    ∃ ds, cs.take n = '.' :: ds ∧ IsFraction ds := by
  unfold fractionLength? at found
  split at found
  next rest =>
    simp only [List.isEmpty_iff] at found
    split at found
    next => cases found
    next nonempty =>
      cases found
      rw [Nat.add_comm, List.take_succ_cons]
      refine ⟨_, rfl, ?_, forall_mem_take_takeWhile _ rest⟩
      rwa [← List.prefix_iff_eq_take.mp (List.takeWhile_prefix _)]
  next => cases found

theorem decimalOf_of_decimalLength? {cs : List Char} {n : Nat} (found : decimalLength? cs = some n) :
    ∃ d, DecimalOf (cs.take n) d := by
  obtain ⟨m, integer, found⟩ := Option.bind_eq_some_iff.mp found
  obtain ⟨k, measured, rfl⟩ := Option.map_eq_some_iff.mp found
  obtain ⟨ds, point, fraction⟩ := isFraction_of_fractionLength? measured
  obtain ⟨v, shape⟩ := integerOf_of_integerLength? integer
  rw [List.take_add, point]
  -- The sign is taken off before the point is looked for, so the two cases are those of the integer.
  generalize cs.take m = ws at shape
  cases shape with
  | plain whole => exact ⟨_, .plain whole fraction⟩
  | minus whole => exact ⟨_, .minus whole fraction⟩

theorem spells_of_innerLength? {quote : Char} {cs : List Char} {n : Nat}
    (found : innerLength? quote cs = some n) : ∃ c, Spells quote (cs.take n) c := by
  unfold innerLength? at found
  split at found
  next => cases found
  next =>
    split at found
    next => cases found
    next c rest =>
      split at found
      next known =>
        cases found
        obtain ⟨d, meaning⟩ := Option.isSome_iff_exists.mp known
        exact ⟨d, .escape meaning⟩
      next => cases found
  next c rest unescaped =>
    split at found
    next => cases found
    next inside =>
      cases found
      simp only [Bool.or_eq_true, beq_iff_eq, not_or] at inside
      refine ⟨c, .plain inside.1.1 ?_ ⟨inside.1.2, inside.2⟩⟩
      rintro rfl
      exact unescaped rfl

theorem characterOf_of_characterLength? {cs : List Char} {n : Nat} (found : characterLength? cs = some n) :
    ∃ c, CharacterOf ('\x27' :: cs.take n) c := by
  unfold characterLength? at found
  split at found
  next => cases found
  next m measured =>
    split at found
    next closed =>
      cases found
      obtain ⟨c, inside⟩ := spells_of_innerLength? measured
      have last : (cs.drop m).take 1 = ['\x27'] := by
        rw [List.take_one, eq_of_beq closed]
        rfl
      rw [List.take_add, last]
      exact ⟨c, .quoted inside⟩
    next => cases found

/-- The inside of a string literal is spelled up to its last quote. -/
theorem spellsAll_of_stringLength? {cs : List Char} {n : Nat} (found : stringLength? cs = some n) :
    ∃ us text, cs.take n = us ++ ['\x22'] ∧ SpellsAll '\x22' us text := by
  fun_induction stringLength? cs generalizing n with
  | case1 => cases found
  | case2 rest =>
    cases found
    exact ⟨[], [], rfl, .nil⟩
  | case3 c rest known ih =>
    obtain ⟨m, measured, rfl⟩ := Option.map_eq_some_iff.mp found
    obtain ⟨us, text, taken, inside⟩ := ih measured
    obtain ⟨d, meaning⟩ := Option.isSome_iff_exists.mp known
    refine ⟨['\\', c] ++ us, d :: text, ?_, .cons (.escape meaning) inside⟩
    rw [Nat.add_comm, List.take_succ_cons, List.take_succ_cons, taken]
    rfl
  | case4 => cases found
  | case5 => cases found
  | case6 c rest notQuote _ inside ih =>
    obtain ⟨m, measured, rfl⟩ := Option.map_eq_some_iff.mp found
    obtain ⟨us, text, taken, spelled⟩ := ih measured
    simp only [Bool.or_eq_true, beq_iff_eq, not_or] at inside
    refine ⟨[c] ++ us, c :: text, ?_, .cons (.plain notQuote inside.1.1 ⟨inside.1.2, inside.2⟩) spelled⟩
    rw [Nat.add_comm, List.take_succ_cons, taken]
    rfl

theorem mem_symbols_of_symbolLength? {cs : List Char} {n : Nat} (found : symbolLength? cs = some n) :
    String.ofList (cs.take n) ∈ symbols := by
  cases cs with
  | nil => cases found
  | cons c cs =>
    simp only [symbolLength?] at found
    split at found
    next double =>
      cases found
      simp only [Bool.and_eq_true, Bool.or_eq_true, beq_iff_eq, List.head?_eq_some_iff] at double
      obtain ⟨first, rest, rfl⟩ := double
      rcases first with ((rfl | rfl) | rfl) | rfl <;> simp only [List.take_succ_cons, List.take_zero] <;> decide
    next =>
      split at found
      next single =>
        cases found
        have each : ['<', '>', '=', '+', '-', '*', '/', '(', ')', ',', '.', ':', ';'].all
            (fun d => symbols.contains (String.ofList [d])) = true := by decide
        exact List.contains_iff_mem.mp (List.all_eq_true.mp each c single)
      next => cases found

theorem of_runLength? {first part : Char → Bool} {cs : List Char} {n : Nat}
    (found : runLength? first part cs = some n) :
    ∃ c ds, cs.take n = c :: ds ∧ first c ∧ ∀ d ∈ ds, part d := by
  cases cs with
  | nil => cases found
  | cons c cs =>
    simp only [runLength?] at found
    split at found
    next begins =>
      cases found
      rw [Nat.add_comm, List.take_succ_cons]
      exact ⟨c, _, rfl, begins, forall_mem_take_takeWhile _ cs⟩
    next => cases found

theorem of_quotedLength? {quote : Char} {inner : List Char → Option Nat} {cs : List Char} {n : Nat}
    (found : quotedLength? quote inner cs = some n) :
    ∃ rest m, inner rest = some m ∧ cs.take n = quote :: rest.take m := by
  cases cs with
  | nil => cases found
  | cons c cs =>
    simp only [quotedLength?] at found
    split at found
    next opens =>
      obtain ⟨m, measured, rfl⟩ := Option.map_eq_some_iff.mp found
      refine ⟨cs, m, measured, ?_⟩
      rw [Nat.add_comm, List.take_succ_cons, eq_of_beq opens]
    next => cases found

end Lexeme

/-- Whether a stretch of text has a shape. -/
def Shape.Fits (shape : Shape) (cs : List Char) : Prop :=
  match shape with
  | .blank => cs ≠ [] ∧ ∀ c ∈ cs, Text.isBlank c
  | .decimal => ∃ d, Lexeme.DecimalOf cs d
  | .integer => ∃ n, Lexeme.IntegerOf cs n
  | .word => Lexeme.IsWord cs
  | .character => ∃ c, Lexeme.CharacterOf cs c
  | .string => ∃ text, Lexeme.StringOf cs text
  | .symbol => String.ofList cs ∈ Lexeme.symbols

namespace Lexeme

/-- What holds of a shape if it is found, and of what is found after it, holds of what the two find. -/
theorem forall_orElse {shape : Shape} {length? : Option Nat} {others : Unit → Option (Shape × Nat)}
    {P : Shape → Nat → Prop} (this : ∀ n, length? = some n → P shape n)
    (those : ∀ other n, others () = some (other, n) → P other n) (found : Shape) (n : Nat)
    (eq : (length?.map (shape, ·)).orElse others = some (found, n)) : P found n := by
  cases measured : length? with
  | none =>
    rw [measured] at eq
    exact those found n eq
  | some m =>
    rw [measured] at eq
    cases eq
    exact this _ measured

/-- What is found at the front of a text has the shape it was found as. -/
theorem fits_of_front? {cs : List Char} (shape : Shape) (n : Nat) (found : front? cs = some (shape, n)) :
    shape.Fits (cs.take n) := by
  revert shape n
  refine forall_orElse ?blank <| forall_orElse ?decimal <| forall_orElse ?integer <|
    forall_orElse ?word <| forall_orElse ?character <| forall_orElse ?string ?symbol
  case blank =>
    intro n found
    obtain ⟨c, ds, taken, first, others⟩ := of_runLength? found
    rw [taken]
    exact ⟨by simp, by simpa using ⟨first, others⟩⟩
  case decimal => exact fun n found => decimalOf_of_decimalLength? found
  case integer => exact fun n found => integerOf_of_integerLength? found
  case word =>
    intro n found
    obtain ⟨c, ds, taken, first, others⟩ := of_runLength? found
    rw [taken]
    exact .word first others
  case character =>
    intro n found
    obtain ⟨rest, m, measured, taken⟩ := of_quotedLength? found
    rw [taken]
    exact characterOf_of_characterLength? measured
  case string =>
    intro n found
    obtain ⟨rest, m, measured, taken⟩ := of_quotedLength? found
    obtain ⟨us, text, inner, inside⟩ := spellsAll_of_stringLength? measured
    rw [taken, inner]
    exact ⟨text, .quoted inside⟩
  case symbol =>
    intro shape n found
    obtain ⟨m, measured, same⟩ := Option.map_eq_some_iff.mp found
    cases same
    exact mem_symbols_of_symbolLength? measured

/-- The shapes of lexemes are not empty. -/
theorem ne_nil_of_fits {shape : Shape} {cs : List Char} (fits : shape.Fits cs) : cs ≠ [] := by
  have whole : ∀ {ds}, IsWhole ds → ds ≠ [] := by
    rintro ds (_ | _) <;> simp
  cases shape with
  | blank => exact fits.1
  | decimal =>
    obtain ⟨d, shape⟩ := fits
    cases shape <;> simp
  | integer =>
    obtain ⟨n, shape⟩ := fits
    cases shape with
    | plain shape => exact whole shape
    | minus => simp
  | word =>
    cases fits
    simp
  | character =>
    obtain ⟨c, shape⟩ := fits
    cases shape
    simp
  | string =>
    obtain ⟨text, shape⟩ := fits
    cases shape
    simp
  | symbol =>
    rintro rfl
    revert fits
    simp only [Shape.Fits]
    decide

/-- The token made of a lexeme is well-formed. -/
theorem wellFormed_of_fits {shape : Shape} {cs : List Char} {kind : Kind} {offset : Nat}
    (fits : shape.Fits cs) (isKind : kind? shape (String.ofList cs) = some kind) :
    Token.WellFormed { kind, literal := String.ofList cs, offset } := by
  cases shape with
  | blank => cases isKind
  | word =>
    simp only [kind?, Option.some.injEq] at isKind
    split at isKind
    next reserved =>
      subst isKind
      exact .inl reserved
    next free =>
      subst isKind
      exact ⟨by simpa [Shape.Fits] using fits, free⟩
  | symbol =>
    cases isKind
    exact .inr fits
  | decimal | integer | character | string =>
    cases isKind
    simpa [Token.WellFormed, Shape.Fits] using fits

end Lexeme

/-! ## Every token of a text is well-formed -/

/-- A minus that stands alone is well-formed. -/
theorem wellFormed_minus (offset : Nat) : Token.WellFormed { kind := .operator, literal := "-", offset } := by
  have listed : "-" ∈ Lexeme.symbols := by decide
  exact .inr listed

theorem lexFrom_wellFormed {before : Option Token} {offset : Nat} {cs : List Char} {tokens : List Token}
    (lexed : lexFrom before offset cs = .ok tokens) : ∀ t ∈ tokens, t.WellFormed := by
  fun_induction lexFrom before offset cs generalizing tokens with
  | case1 =>
    cases lexed
    simp
  | case2 => cases lexed
  | case3 before offset c cs shape n found isMinus minus =>
    rename_i ih
    obtain ⟨more, rest, rfl⟩ := Except.map_eq_ok_iff.mp lexed
    exact List.forall_mem_cons.mpr ⟨wellFormed_minus offset, ih rest⟩
  | case4 before offset c cs shape n found notMinus literal rest blank =>
    rename_i ih
    exact ih lexed
  | case5 before offset c cs shape n found notMinus literal rest kind isKind token =>
    rename_i ih
    obtain ⟨more, others, rfl⟩ := Except.map_eq_ok_iff.mp lexed
    refine List.forall_mem_cons.mpr ⟨?_, ih others⟩
    have fits := Lexeme.fits_of_front? shape n found
    have taken : (c :: cs).take n = c :: cs.take (n - 1) := by
      cases n with
      | zero => exact absurd rfl (Lexeme.ne_nil_of_fits fits)
      | succ n => rfl
    rw [taken] at fits
    exact Lexeme.wellFormed_of_fits fits isKind

/-- Every token of a text is well-formed. -/
theorem lex_wellFormed {text : List Char} {tokens : List Token} (lexed : lex text = .ok tokens) :
    ∀ t ∈ tokens, t.WellFormed :=
  lexFrom_wellFormed lexed

end Primer
