import Mathlib.Data.List.Chain
import Primer.Proofs.Token.Cover

/-!
# Spacing tokens anew

What lexing can make of a text is said here of kinds and literals alone, without their offsets (`Lexical`): each
literal has the shape of its kind, and a number has a minus in front only where no operand ends before it.

**The law** (`respacing_keeps_tokens`) has two halves. The tokens of a text are such a list. And such a list is
what lexing makes of its own literals, when they are written one after the other with blanks between them, however
many and whichever blanks they are (`Spaced`).

The second half rests on `Shape.length?_append`: a lexeme in front of a blank is found whole. A quoted literal
ends at its own quote, whatever blanks it holds, and the other lexemes hold no blank.
-/

namespace Primer

open Lexeme

/-! ## How lexemes begin and go on -/

namespace Text

theorem not_isBlank_of_toNat {c : Char} (above : 32 < c.toNat) (below : c.toNat < 133) : isBlank c = false := by
  simp only [isBlank, Bool.or_eq_false_iff, Bool.and_eq_false_iff, decide_eq_false_iff_not, beq_eq_false_iff_ne]
  omega

end Text

namespace Lexeme

/-- What holds of no character of a stretch does not hold where the stretch begins. -/
theorem eq_nil_of_prefix {P : Char → Prop} {more rest : List Char} (fore : more <+: rest)
    (ends : ∀ c ∈ rest.head?, P c) (nowhere : ∀ c ∈ more, ¬ P c) : more = [] := by
  cases more with
  | nil => rfl
  | cons c more =>
    obtain ⟨others, rfl⟩ := fore
    exact absurd (ends c rfl) (nowhere c List.mem_cons_self)

theorem toNat_of_isAlpha {c : Char} (alpha : c.isAlpha) : 65 ≤ c.toNat ∧ c.toNat ≤ 122 := by
  change (c.isUpper || c.isLower) = true at alpha
  rcases Bool.or_eq_true_iff.mp alpha with upper | lower
  · have between : 65 ≤ c.toNat ∧ c.toNat ≤ 90 := of_decide_eq_true upper
    omega
  · change (decide ('a'.val ≤ c.val) && decide (c.val ≤ 'z'.val)) = true at lower
    rw [Bool.and_eq_true, decide_eq_true_eq, decide_eq_true_eq] at lower
    have between : 97 ≤ c.toNat ∧ c.toNat ≤ 122 := lower
    omega

theorem toNat_of_isWordStart {c : Char} (begins : isWordStart c) : 65 ≤ c.toNat ∧ c.toNat ≤ 122 := by
  simp only [isWordStart, Bool.or_eq_true, beq_iff_eq] at begins
  rcases begins with alpha | rfl
  · exact toNat_of_isAlpha alpha
  · decide

theorem toNat_of_isWordPart {c : Char} (part : isWordPart c) : 48 ≤ c.toNat ∧ c.toNat ≤ 122 := by
  simp only [isWordPart, Char.isAlphanum, Bool.or_eq_true, beq_iff_eq] at part
  rcases part with (alpha | digit) | rfl
  · exact (toNat_of_isAlpha alpha).imp_left (Nat.le_trans (by decide))
  · exact (Text.toNat_of_isDigit digit).imp_right (Nat.le_trans · (by decide))
  · decide

end Lexeme

namespace Shape

/-- The code points that a stretch of a shape can begin with. -/
def Begins (n : Nat) : Shape → Prop
  | blank => n ≤ 32 ∨ 133 ≤ n
  | decimal | integer => 45 ≤ n ∧ n ≤ 57
  | word => 65 ≤ n ∧ n ≤ 122
  | character => n = 39
  | string => n = 34
  | symbol => n = 33 ∨ 40 ≤ n ∧ n ≤ 62

theorem begins_of_fits {shape : Shape} {c : Char} {cs : List Char} (fits : shape.Fits (c :: cs)) :
    shape.Begins c.toNat := by
  cases shape with
  | blank =>
    have blank := fits.2 c List.mem_cons_self
    simp only [Text.isBlank, Bool.or_eq_true, Bool.and_eq_true, decide_eq_true_eq, beq_iff_eq] at blank
    simp only [Begins]
    omega
  | decimal =>
    obtain ⟨d, shape⟩ := fits
    exact Text.toNat_of_isNumberChar (shape.forall_isNumberChar c List.mem_cons_self)
  | integer =>
    obtain ⟨n, shape⟩ := fits
    exact Text.toNat_of_isNumberChar (shape.forall_isNumberChar c List.mem_cons_self)
  | word =>
    cases fits with
    | word first _ => exact toNat_of_isWordStart first
  | character =>
    obtain ⟨d, shape⟩ := fits
    cases shape
    rfl
  | string =>
    obtain ⟨text, shape⟩ := fits
    cases shape
    rfl
  | symbol =>
    have each : symbols.all (fun s => s.toList.head?.all fun c =>
        c.toNat == 33 || (40 ≤ c.toNat && c.toNat ≤ 62)) = true := by decide
    have begins := List.all_eq_true.mp each _ fits
    simpa [String.toList_ofList, Begins] using begins

/-- The shapes whose stretches hold no blank. -/
def solids : List Shape :=
  [decimal, integer, word, symbol]

theorem not_isBlank_of_fits {shape : Shape} {cs : List Char} (solid : shape ∈ solids) (fits : shape.Fits cs) :
    ∀ c ∈ cs, Text.isBlank c = false := by
  intro c mem
  cases shape with
  | blank | character | string => exact absurd solid (by decide)
  | decimal =>
    obtain ⟨d, shape⟩ := fits
    exact Text.not_isBlank_of_isNumberChar (shape.forall_isNumberChar c mem)
  | integer =>
    obtain ⟨n, shape⟩ := fits
    exact Text.not_isBlank_of_isNumberChar (shape.forall_isNumberChar c mem)
  | word =>
    cases fits with
    | word first others =>
      rcases List.mem_cons.mp mem with rfl | mem
      · have := toNat_of_isWordStart first
        exact Text.not_isBlank_of_toNat (by omega) (by omega)
      · have := toNat_of_isWordPart (others c mem)
        exact Text.not_isBlank_of_toNat (by omega) (by omega)
  | symbol =>
    have each : symbols.all (fun s => s.toList.all fun c => !Text.isBlank c) = true := by decide
    have plain := List.all_eq_true.mp each _ fits
    rw [String.toList_ofList] at plain
    exact Bool.not_eq_true' _ ▸ List.all_eq_true.mp plain c mem

variable {shape : Shape} {literal rest : List Char}

/-- A lexeme in front of a blank is found whole. -/
theorem length?_append (fits : shape.Fits literal) (notBlank : shape ≠ blank)
    (ends : ∀ c ∈ rest.head?, Text.isBlank c) : shape.length? (literal ++ rest) = some literal.length := by
  have found : shape ∈ solids → shape.length? (literal ++ rest) = some literal.length := by
    intro solid
    refine shape.measures.eq_length fits fun more fore longer => eq_nil_of_prefix fore ends fun c mem => ?_
    rw [not_isBlank_of_fits solid longer c (List.mem_append_right _ mem)]
    exact Bool.false_ne_true
  cases shape with
  | blank => exact absurd rfl notBlank
  | decimal | integer | word | symbol => exact found (by decide)
  | character =>
    obtain ⟨c, shape⟩ := fits
    exact quotedLength?_append_of_characterOf shape rest
  | string =>
    obtain ⟨text, shape⟩ := fits
    exact quotedLength?_append_of_stringOf shape rest

theorem length?_eq_none_of_not_begins {c : Char} {cs : List Char} (apart : ¬ shape.Begins c.toNat) :
    shape.length? (c :: cs) = none := by
  cases found : shape.length? (c :: cs) with
  | none => rfl
  | some n =>
    have fits := (shape.measures.found _ n found).2
    cases n with
    | zero => exact absurd rfl (ne_nil_of_fits fits)
    | succ n => exact absurd (begins_of_fits fits) apart

/-- What holds no blank is not found across one. -/
theorem length?_eq_none_of_forall_prefix (solid : shape ∈ solids) (ends : ∀ c ∈ rest.head?, Text.isBlank c)
    (unfit : ∀ front, front <+: literal → ¬ shape.Fits front) : shape.length? (literal ++ rest) = none := by
  cases found : shape.length? (literal ++ rest) with
  | none => rfl
  | some n =>
    have fits := (shape.measures.found _ n found).2
    have fore := List.take_prefix n (literal ++ rest)
    generalize (literal ++ rest).take n = front at fits fore
    rcases List.prefix_or_prefix_of_prefix fore (List.prefix_append literal rest) with inside | ⟨more, rfl⟩
    · exact absurd fits (unfit front inside)
    · have ended : more = [] := by
        refine eq_nil_of_prefix ((List.prefix_append_right_inj literal).mp fore) ends fun c mem => ?_
        rw [not_isBlank_of_fits solid fits c (List.mem_append_right _ mem)]
        exact Bool.false_ne_true
      rw [ended, List.append_nil] at fits
      exact absurd fits (unfit literal (List.prefix_refl literal))

/-- A number holds a digit. -/
theorem exists_isDigit_of_fits (number : shape = decimal ∨ shape = integer) (fits : shape.Fits literal) :
    ∃ c ∈ literal, c.isDigit := by
  have whole : ∀ {ds : List Char}, IsWhole ds → ∃ c ∈ ds, c.isDigit := by
    intro ds whole
    obtain ⟨c, cs, rfl⟩ := List.exists_cons_of_ne_nil whole.ne_nil
    exact ⟨c, List.mem_cons_self, whole.forall_isDigit c List.mem_cons_self⟩
  rcases number with rfl | rfl
  · obtain ⟨d, shape⟩ := fits
    cases shape with
    | plain isWhole _ =>
      obtain ⟨c, mem, digit⟩ := whole isWhole
      exact ⟨c, List.mem_append_left _ mem, digit⟩
    | minus isWhole _ =>
      obtain ⟨c, mem, digit⟩ := whole isWhole
      exact ⟨c, List.mem_append_left _ (List.mem_cons_of_mem _ mem), digit⟩
  · obtain ⟨n, shape⟩ := fits
    cases shape with
    | plain isWhole => exact whole isWhole
    | minus isWhole =>
      obtain ⟨c, mem, digit⟩ := whole isWhole
      exact ⟨c, List.mem_cons_of_mem _ mem, digit⟩

/-- No number begins where a symbol stands in front of a blank. -/
theorem length?_number_eq_none (number : shape = decimal ∨ shape = integer) (symbol : symbol.Fits literal)
    (ends : ∀ c ∈ rest.head?, Text.isBlank c) : shape.length? (literal ++ rest) = none := by
  refine length?_eq_none_of_forall_prefix (by rcases number with rfl | rfl <;> decide) ends fun front fore fits => ?_
  obtain ⟨c, mem, digit⟩ := exists_isDigit_of_fits number fits
  have each : symbols.all (fun s => s.toList.all fun c => !c.isDigit) = true := by decide
  have plain := List.all_eq_true.mp each _ symbol
  rw [String.toList_ofList] at plain
  have notDigit := List.all_eq_true.mp plain c (fore.subset mem)
  rw [digit] at notDigit
  cases notDigit

/-- No decimal begins where an integer stands in front of a blank. -/
theorem length?_decimal_eq_none (integer : integer.Fits literal) (ends : ∀ c ∈ rest.head?, Text.isBlank c) :
    decimal.length? (literal ++ rest) = none := by
  refine length?_eq_none_of_forall_prefix (by decide) ends fun front fore fits => ?_
  obtain ⟨n, whole⟩ := integer
  obtain ⟨d, fraction⟩ := fits
  have point : '.' ∈ literal := fore.subset (by cases fraction <;> simp)
  cases whole with
  | plain whole => exact absurd (whole.forall_isDigit _ point) (by decide)
  | minus whole =>
    rcases List.mem_cons.mp point with isMinus | point
    · cases isMinus
    · exact absurd (whole.forall_isDigit _ point) (by decide)

/-- The shapes that may begin like a shape that is tried after them. -/
def rivals : Shape → List Shape
  | integer => [decimal]
  | symbol => [decimal, integer]
  | _ => []

/-- All other shapes that are tried before a shape begin otherwise. -/
theorem not_begins_of_earlier {other : Shape} {n : Nat} (earlier : other ∈ order.takeWhile (· ≠ shape))
    (unlike : other ∉ shape.rivals) (begins : shape.Begins n) : ¬ other.Begins n := by
  cases shape <;> cases other <;> simp_all [order, rivals, Begins] <;> omega

/-- Where a lexeme stands in front of a blank, no shape that is tried earlier is found. -/
theorem length?_eq_none_of_earlier {other : Shape} (fits : shape.Fits literal)
    (ends : ∀ c ∈ rest.head?, Text.isBlank c) (earlier : other ∈ order.takeWhile (· ≠ shape)) :
    other.length? (literal ++ rest) = none := by
  by_cases rival : other ∈ shape.rivals
  · cases shape with
    | blank | decimal | word | character | string => cases rival
    | integer =>
      rw [List.mem_singleton.mp rival]
      exact length?_decimal_eq_none fits ends
    | symbol => exact length?_number_eq_none (by simpa [rivals] using rival) fits ends
  · obtain ⟨c, cs, rfl⟩ := List.exists_cons_of_ne_nil (ne_nil_of_fits fits)
    exact length?_eq_none_of_not_begins (not_begins_of_earlier earlier rival (begins_of_fits fits))

end Shape

/-- What stands in front of a blank is found as what it is. -/
theorem Lexeme.front?_append_of_fits {shape : Shape} {literal rest : List Char} (fits : shape.Fits literal)
    (notBlank : shape ≠ .blank) (ends : ∀ c ∈ rest.head?, Text.isBlank c) :
    front? (literal ++ rest) = some (shape, literal.length) := by
  apply front?_eq_some_of_earlier (Shape.length?_append fits notBlank ends)
  intro other earlier
  exact Shape.length?_eq_none_of_earlier fits ends earlier

/-! ## Lists of kinds and literals -/

/-- The kind and the literal of a token, without its place. -/
def Token.spelled (t : Token) : Kind × String :=
  (t.kind, t.literal)

/-- Whether a literal is a number with a minus in front. -/
def IsSigned (p : Kind × String) : Prop :=
  (p.1 = .integer ∨ p.1 = .decimal) ∧ p.2.toList.head? = some '-'

/-- The lists of kinds and literals that a text can have: each literal has the shape of its kind, and a number
has a minus in front only at the beginning and after an operator that ends no operand. -/
structure Lexical (pairs : List (Kind × String)) : Prop where
  shaped : ∀ p ∈ pairs, Token.WellFormed { kind := p.1, literal := p.2, offset := 0 }
  signed : pairs.IsChain fun p q => IsSigned q → p.1 = .operator ∧ p.2 ∉ [")", "TRUE", "FALSE", "NIL"]

/-- That a text is literals one after the other, with at least one blank between neighbours. -/
inductive Spaced : List String → List Char → Prop
  | nil : Spaced [] []
  | last (literal : String) : Spaced [literal] literal.toList
  | cons {literal next : String} {others : List String} {gap text : List Char} (gapped : gap ≠ [])
      (blank : ∀ c ∈ gap, Text.isBlank c) (rest : Spaced (next :: others) text) :
      Spaced (literal :: next :: others) (literal.toList ++ (gap ++ text))

theorem Token.endsOperand_eq_false_iff {t : Token} :
    t.endsOperand = false ↔ t.kind = .operator ∧ t.literal ∉ [")", "TRUE", "FALSE", "NIL"] := by
  unfold endsOperand
  split
  next isOperator => simp [isOperator]
  next notOperator => exact ⟨fun ended => Bool.noConfusion ended, fun plain => absurd plain.1 notOperator⟩

/-! ## The tokens of a text -/

namespace LexState

variable {s s' last : LexState} {t : Token} {tokens : List Token}

/-- A number with a minus in front is made only where no operand ends before it. -/
theorem Step.not_endsOperand_of_isSigned (step : s.Step (some t) s') (signed : IsSigned t.spelled) :
    s.before.any Token.endsOperand = false := by
  generalize isToken : some t = token at step
  cases step with
  | minus _ =>
    cases isToken
    obtain ⟨isInteger | isDecimal, -⟩ := signed
    · cases isInteger
    · cases isDecimal
  | @lexeme shape n plain found =>
    obtain ⟨kind, -, rfl⟩ := Option.map_eq_some_iff.mp isToken.symm
    have isMinus : s.rest.head? = some '-' := by
      obtain ⟨-, first⟩ := signed
      simp only [Token.spelled, String.toList_ofList, List.head?_take] at first
      split at first
      next => cases first
      next => exact first
    simpa [subtracts, isMinus] using plain

/-- In the course of lexing, numbers have a minus in front only where no operand ends before them. -/
theorem Lexes.isChain_signed (lexes : s.Lexes tokens last) :
    (s.before.toList ++ tokens).IsChain fun t u => IsSigned u.spelled → t.endsOperand = false := by
  induction lexes with
  | refl s => cases s.before <;> simp
  | @step s s' last token tokens first _ ih =>
    obtain ⟨taken, -, -, isState, -⟩ := first.spans
    rw [isState] at ih
    cases token with
    | none => exact ih
    | some t =>
      cases isBefore : s.before with
      | none => exact ih
      | some b =>
        refine .cons_cons (fun signed => ?_) ih
        simpa [isBefore] using first.not_endsOperand_of_isSigned signed

end LexState

theorem lexical_of_lex {text : List Char} {tokens : List Token} (lexed : lex text = .ok tokens) :
    Lexical (tokens.map Token.spelled) where
  shaped := List.forall_mem_map.mpr (lex_wellFormed lexed)
  signed := by
    obtain ⟨last, lexes⟩ := LexState.exists_lexes_of_lex_eq_ok lexed
    rw [List.isChain_map]
    exact lexes.isChain_signed.imp fun t u after signed => Token.endsOperand_eq_false_iff.mp (after signed)

/-! ## The tokens of a list that is spaced -/

/-- What begins with a minus and is no number is the minus itself. -/
theorem eq_minus_of_not_isSigned {p : Kind × String}
    (shaped : Token.WellFormed { kind := p.1, literal := p.2, offset := 0 }) (first : p.2.toList.head? = some '-')
    (unsigned : ¬ IsSigned p) : p = (.operator, "-") := by
  obtain ⟨kind, literal⟩ := p
  obtain ⟨shape, fits, isKind⟩ := shaped.exists_fits
  have begins : shape.Begins '-'.toNat := by
    obtain ⟨cs, isLiteral⟩ := List.head?_eq_some_iff.mp first
    exact Shape.begins_of_fits (isLiteral ▸ fits)
  cases shape with
  | blank | word | character | string => exact absurd begins (by simp [Shape.Begins])
  | decimal =>
    cases isKind
    exact absurd ⟨.inr rfl, first⟩ unsigned
  | integer =>
    cases isKind
    exact absurd ⟨.inl rfl, first⟩ unsigned
  | symbol =>
    cases isKind
    have each : symbols.all (fun s => s.toList.head? != some '-' || s == "-") = true := by decide
    have listed := List.all_eq_true.mp each _ fits
    rw [String.ofList_toList, first] at listed
    exact congrArg _ (eq_of_beq (by simpa using listed))

namespace LexState

variable {s : LexState} {p : Kind × String} {rest : List Char}

/-- A literal in front of a blank is taken in one step, which makes its token. -/
theorem exists_step_of_literal (shaped : Token.WellFormed { kind := p.1, literal := p.2, offset := 0 })
    (isRest : s.rest = p.2.toList ++ rest) (ends : ∀ c ∈ rest.head?, Text.isBlank c)
    (unsigned : IsSigned p → s.before.any Token.endsOperand = false) :
    ∃ t s', s.Step (some t) s' ∧ t.spelled = p ∧ s'.before = some t ∧ s'.rest = rest := by
  obtain ⟨shape, fits, isKind⟩ := shaped.exists_fits
  cases subtracts : s.subtracts with
  | true =>
    obtain ⟨cs, isMinus, after⟩ := exists_rest_of_subtracts subtracts
    have first : p.2.toList.head? = some '-' := by
      obtain ⟨c, ds, isLiteral⟩ := List.exists_cons_of_ne_nil (ne_nil_of_fits fits)
      rw [isRest, isLiteral] at isMinus
      cases isMinus
      rw [isLiteral, List.head?_cons]
    have isPair : p = (.operator, "-") := by
      refine eq_minus_of_not_isSigned shaped first fun signed => ?_
      rw [unsigned signed] at after
      cases after
    subst isPair
    refine ⟨s.minus, _, .minus subtracts, rfl, rfl, ?_⟩
    rw [advance, isRest]
    rfl
  | false =>
    have notBlank : shape ≠ .blank := by
      rintro rfl
      cases isKind
    have found := front?_append_of_fits fits notBlank ends
    rw [← isRest] at found
    have isToken : s.token? shape p.2.toList.length = some { kind := p.1, literal := p.2, offset := s.offset } := by
      rw [token?, isRest, List.take_left, String.ofList_toList, isKind]
      rfl
    have step := Step.lexeme subtracts found
    rw [isToken] at step
    refine ⟨_, _, step, rfl, rfl, ?_⟩
    rw [advance, isRest, List.drop_left]

/-- The blanks in front of a literal are taken in one step, which makes no token. -/
theorem exists_step_of_blanks {gap : List Char} (gapped : gap ≠ []) (blank : ∀ c ∈ gap, Text.isBlank c)
    (isRest : s.rest = gap ++ rest) (ends : ∀ c ∈ rest.head?, Text.isBlank c = false) :
    ∃ s', s.Step none s' ∧ s'.before = s.before ∧ s'.rest = rest := by
  have measured : Shape.blank.length? (gap ++ rest) = some gap.length := by
    refine Shape.blank.measures.eq_length ⟨gapped, blank⟩ fun more fore longer => ?_
    refine eq_nil_of_prefix fore ends fun c mem => ?_
    rw [longer.2 c (List.mem_append_right _ mem)]
    exact Bool.noConfusion
  have found : front? s.rest = some (.blank, gap.length) := by
    rw [isRest]
    exact front?_eq_some_iff.mpr ⟨[], _, rfl, measured, fun other mem => nomatch mem⟩
  have plain : s.subtracts = false := by
    obtain ⟨c, cs, rfl⟩ := List.exists_cons_of_ne_nil gapped
    have notMinus : c ≠ '-' := by
      rintro rfl
      exact absurd (blank '-' List.mem_cons_self) (by decide)
    simp [subtracts, isRest, notMinus]
  refine ⟨_, .lexeme plain found, rfl, ?_⟩
  rw [advance, isRest, List.drop_left]

end LexState

/-- A list that is spaced does not begin with a blank. -/
theorem Spaced.not_isBlank_of_head? {literal : String} {others : List String} {text : List Char} {kind : Kind}
    (spaced : Spaced (literal :: others) text) (shaped : Token.WellFormed { kind, literal, offset := 0 }) :
    ∀ c ∈ text.head?, Text.isBlank c = false := by
  obtain ⟨shape, fits, isKind⟩ := shaped.exists_fits
  obtain ⟨d, ds, isLiteral⟩ := List.exists_cons_of_ne_nil (ne_nil_of_fits fits)
  have begins := Shape.begins_of_fits (isLiteral ▸ fits)
  have first : text.head? = some d := by
    cases spaced with
    | last => rw [isLiteral, List.head?_cons]
    | cons => rw [isLiteral, List.cons_append, List.head?_cons]
  intro c isHead
  rw [first] at isHead
  cases isHead
  cases shape with
  | blank => cases isKind
  | _ =>
    simp only [Shape.Begins] at begins
    exact Text.not_isBlank_of_toNat (by omega) (by omega)

/-- From any state on, lexing makes of spaced literals the tokens that they are the literals of. -/
theorem Lexical.exists_lexes {pairs : List (Kind × String)} {text : List Char} {s : LexState} (lexical : Lexical pairs)
    (spaced : Spaced (pairs.map Prod.snd) text) (isRest : s.rest = text)
    (unsigned : ∀ p ∈ pairs.head?, IsSigned p → s.before.any Token.endsOperand = false) :
    ∃ tokens last, s.Lexes tokens last ∧ last.rest = [] ∧ tokens.map Token.spelled = pairs := by
  induction pairs generalizing text s with
  | nil =>
    cases spaced
    exact ⟨[], s, .refl s, isRest, rfl⟩
  | cons p others ih =>
    obtain ⟨shaped, othersShaped⟩ := List.forall_mem_cons.mp lexical.shaped
    cases others with
    | nil =>
      cases spaced
      rw [← List.append_nil p.2.toList] at isRest
      obtain ⟨t, s', step, spelled, -, atEnd⟩ :=
        LexState.exists_step_of_literal shaped isRest (fun c isHead => nomatch isHead) (unsigned p rfl)
      exact ⟨_, s', .step step (.refl s'), atEnd, congrArg ([·]) spelled⟩
    | cons q others =>
      obtain ⟨after, othersSigned⟩ := List.isChain_cons_cons.mp lexical.signed
      simp only [List.map_cons] at spaced
      cases spaced with
      | @cons _ _ _ gap text gapped blank spaced =>
        have ends : ∀ c ∈ (gap ++ text).head?, Text.isBlank c := by
          obtain ⟨d, ds, rfl⟩ := List.exists_cons_of_ne_nil gapped
          simpa using blank d List.mem_cons_self
        obtain ⟨t, s₁, literal, rfl, isBefore, isRest₁⟩ :=
          LexState.exists_step_of_literal shaped isRest ends (unsigned p rfl)
        obtain ⟨s₂, blanks, sameBefore, isRest₂⟩ :=
          LexState.exists_step_of_blanks gapped blank isRest₁
            (spaced.not_isBlank_of_head? (othersShaped q List.mem_cons_self))
        obtain ⟨tokens, last, lexes, atEnd, same⟩ := ih ⟨othersShaped, othersSigned⟩ spaced isRest₂ (by
          rintro _ ⟨⟩ signed
          rw [sameBefore, isBefore]
          exact Token.endsOperand_eq_false_iff.mpr (after signed))
        exact ⟨_, last, .step literal (.step blanks lexes), atEnd, congrArg (t.spelled :: ·) same⟩

/-- The spellings of the tokens of a text are lexical, and lexical spellings with blanks between them are lexed as they
were, whatever the blanks. -/
theorem respacing_keeps_tokens :
    (∀ text tokens, lex text = .ok tokens → Lexical (tokens.map Token.spelled)) ∧
      ∀ pairs text, Lexical pairs → Spaced (pairs.map Prod.snd) text →
        ∃ tokens, lex text = .ok tokens ∧ tokens.map Token.spelled = pairs := by
  refine ⟨fun text tokens lexed => lexical_of_lex lexed, fun pairs text lexical spaced => ?_⟩
  obtain ⟨tokens, last, lexes, atEnd, same⟩ := lexical.exists_lexes spaced (s := .start text) rfl fun _ _ _ => rfl
  exact ⟨tokens, LexState.lex_eq_ok_of_lexes lexes atEnd, same⟩

/-- A subtraction and a negative number, close together and far apart. -/
theorem respaced_subtraction :
    ∃ tokens, lex "x\n-\t1  (\x0c-0.5 \"a b\"".toList = .ok tokens ∧
      tokens.map Token.spelled =
        [(.identifier, "x"), (.operator, "-"), (.integer, "1"), (.operator, "("), (.decimal, "-0.5"),
          (.string, "\"a b\"")] := by
  have lexical : Lexical
      [(.identifier, "x"), (.operator, "-"), (.integer, "1"), (.operator, "("), (.decimal, "-0.5"),
        (.string, "\"a b\"")] :=
    respacing_keeps_tokens.1 "x-1(-0.5\"a b\"".toList
      [⟨.identifier, "x", 0⟩, ⟨.operator, "-", 1⟩, ⟨.integer, "1", 2⟩, ⟨.operator, "(", 3⟩, ⟨.decimal, "-0.5", 4⟩,
        ⟨.string, "\"a b\"", 8⟩] (by decide +kernel)
  refine respacing_keeps_tokens.2 _ _ lexical ?_
  exact @Spaced.cons "x" "-" _ ['\n'] _ (by decide) (List.all_eq_true.mp rfl) <|
    @Spaced.cons "-" "1" _ ['\t'] _ (by decide) (List.all_eq_true.mp rfl) <|
    @Spaced.cons "1" "(" _ [' ', ' '] _ (by decide) (List.all_eq_true.mp rfl) <|
    @Spaced.cons "(" "-0.5" _ ['\x0c'] _ (by decide) (List.all_eq_true.mp rfl) <|
    @Spaced.cons "-0.5" "\"a b\"" _ [' '] _ (by decide) (List.all_eq_true.mp rfl) <|
    .last "\"a b\""

end Primer
