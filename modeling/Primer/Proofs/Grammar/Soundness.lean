import Primer.Proofs.Grammar.Derivation
import Primer.Proofs.Token.Literals

/-!
# What the reader accepts is derived

A reader looks at the texts of tokens, and at their kinds only for names and literals. On well-formed
tokens the text of a reserved word or symbol belongs to no other kind, so what a reader takes is what the
grammar asks for.

**The law** (`source_sound`): a program read from well-formed tokens is the tree of a derivation of all of
them. Each reader has a law of its own, proved along the recursion of the readers: what it read is the
tree of a derivation of the tokens in front of those it left.

**What it does not establish.** A reader that accepted nothing would be sound too; that derived tokens are
accepted is the law of `Primer.Proofs.Grammar.Completeness`.
-/

namespace Primer

/-! ## Words and symbols -/

namespace Lexeme

/-- The texts of reserved words and symbols. -/
def vocabulary : List String :=
  reservedWords ++ symbols

theorem IsWhole.exists_isDigit {ds : List Char} (whole : IsWhole ds) : ∃ d ∈ ds, d.isDigit := by
  obtain ⟨d, rest, rfl⟩ := List.exists_cons_of_ne_nil whole.ne_nil
  exact ⟨d, List.mem_cons_self, whole.forall_isDigit d List.mem_cons_self⟩

theorem IntegerOf.exists_isDigit {cs : List Char} {n : Int} (shape : IntegerOf cs n) :
    ∃ d ∈ cs, d.isDigit := by
  cases shape with
  | plain whole => exact whole.exists_isDigit
  | minus whole =>
    obtain ⟨d, mem, digit⟩ := whole.exists_isDigit
    exact ⟨d, List.mem_cons_of_mem _ mem, digit⟩

theorem DecimalOf.exists_isDigit {cs : List Char} {d : Decimal} (shape : DecimalOf cs d) :
    ∃ d ∈ cs, d.isDigit := by
  cases shape with
  | plain whole fraction =>
    obtain ⟨d, mem, digit⟩ := whole.exists_isDigit
    exact ⟨d, by simp [mem], digit⟩
  | minus whole fraction =>
    obtain ⟨d, mem, digit⟩ := whole.exists_isDigit
    exact ⟨d, by simp [mem], digit⟩

/-- No number has the text of a reserved word or symbol. -/
theorem not_mem_vocabulary_of_isDigit {text : String} (digit : ∃ d ∈ text.toList, d.isDigit) :
    text ∉ vocabulary := by
  have none : (vocabulary.all fun text => text.toList.all fun c => !c.isDigit) = true := by decide
  intro listed
  obtain ⟨d, mem, isDigit⟩ := digit
  have notDigit := List.all_eq_true.mp (List.all_eq_true.mp none text listed) d mem
  rw [isDigit] at notDigit
  cases notDigit

/-- No quoted text is the text of a reserved word or symbol. -/
theorem not_mem_vocabulary_of_quote {text : String} {quote : Char} {cs : List Char}
    (isQuote : quote = '\x27' ∨ quote = '\x22') (quoted : text.toList = quote :: cs) :
    text ∉ vocabulary := by
  have none : ∀ text ∈ vocabulary, text.toList.head? ≠ some '\x27' ∧ text.toList.head? ≠ some '\x22' := by
    decide
  intro listed
  have first : text.toList.head? = some quote := by rw [quoted, List.head?_cons]
  rcases isQuote with rfl | rfl
  · exact (none text listed).1 first
  · exact (none text listed).2 first

/-- No name has the text of a reserved word or symbol. -/
theorem not_mem_vocabulary_of_isWord {text : String} (word : IsWord text.toList)
    (free : text ∉ reservedWords) : text ∉ vocabulary := by
  have other : (symbols.all fun text => text.toList.any fun c => !isWordPart c) = true := by decide
  have parts : ∀ {cs : List Char}, IsWord cs → ∀ c ∈ cs, isWordPart c := by
    intro cs word
    cases word with
    | word first others =>
      refine List.forall_mem_cons.mpr ⟨?_, others⟩
      simp only [isWordStart, Bool.or_eq_true] at first
      simp only [isWordPart, Char.isAlphanum, Bool.or_eq_true]
      exact first.imp_left .inl
  intro listed
  rcases List.mem_append.mp listed with reserved | symbol
  · exact free reserved
  · obtain ⟨c, mem, notPart⟩ := List.any_eq_true.mp (List.all_eq_true.mp other text symbol)
    rw [parts word c mem] at notPart
    cases notPart

end Lexeme

namespace Token

/-- Only operators have the text of a reserved word or symbol. -/
theorem WellFormed.kind_eq_operator {t : Token} (shape : t.WellFormed)
    (listed : t.literal ∈ Lexeme.vocabulary) : t.kind = .operator := by
  unfold WellFormed at shape
  cases kind : t.kind with
  | operator => rfl
  | identifier =>
    rw [kind] at shape
    exact absurd listed (Lexeme.not_mem_vocabulary_of_isWord shape.1 shape.2)
  | integer =>
    rw [kind] at shape
    obtain ⟨n, shape⟩ := shape
    exact absurd listed (Lexeme.not_mem_vocabulary_of_isDigit shape.exists_isDigit)
  | decimal =>
    rw [kind] at shape
    obtain ⟨d, shape⟩ := shape
    exact absurd listed (Lexeme.not_mem_vocabulary_of_isDigit shape.exists_isDigit)
  | character =>
    rw [kind] at shape
    obtain ⟨c, shape⟩ := shape
    generalize spelled : t.literal.toList = cs at shape
    cases shape
    exact absurd listed (Lexeme.not_mem_vocabulary_of_quote (.inl rfl) spelled)
  | string =>
    rw [kind] at shape
    obtain ⟨cs, shape⟩ := shape
    generalize spelled : t.literal.toList = cs at shape
    cases shape
    exact absurd listed (Lexeme.not_mem_vocabulary_of_quote (.inr rfl) spelled)
  | other name =>
    rw [kind] at shape
    exact shape.elim

theorem WellFormed.is {t : Token} {text : String} (shape : t.WellFormed) (same : t.literal = text)
    (listed : text ∈ Lexeme.vocabulary) : t.Is text :=
  ⟨shape.kind_eq_operator (same ▸ listed), same⟩

end Token

namespace Reading

open Grammar

/-! ## Single tokens -/

/-- That all tokens of a list are well-formed. -/
abbrev Fit (ts : List Token) : Prop :=
  ∀ t ∈ ts, t.WellFormed

theorem Fit.of_append {us vs : List Token} (fit : Fit (us ++ vs)) : Fit vs :=
  fun t mem => fit t (List.mem_append_right us mem)

theorem Fit.of_cons {t : Token} {ts : List Token} (fit : Fit (t :: ts)) : Fit ts :=
  fun u mem => fit u (List.mem_cons_of_mem t mem)

variable {ts rest : List Token} {text : String} {issue : ParseIssue}

theorem accept?_took {t : Token} {fewer : rest.length < ts.length} (fit : Fit ts)
    (taken : accept? text ts = some ⟨t, rest, fewer⟩) (listed : text ∈ Lexeme.vocabulary) :
    ts = t :: rest ∧ t.Is text := by
  cases ts with
  | nil => cases taken
  | cons u us =>
    simp only [accept?] at taken
    split at taken
    next same =>
      cases taken
      exact ⟨rfl, (fit t List.mem_cons_self).is (eq_of_beq same) listed⟩
    next => cases taken

theorem expect_took {t : Token} {fewer : rest.length < ts.length} (fit : Fit ts)
    (taken : expect text issue ts = .ok ⟨t, rest, fewer⟩) (listed : text ∈ Lexeme.vocabulary) :
    ts = t :: rest ∧ t.Is text := by
  cases ts with
  | nil => cases taken
  | cons u us =>
    simp only [expect] at taken
    split at taken
    next same =>
      cases taken
      exact ⟨rfl, (fit t List.mem_cons_self).is (eq_of_beq same) listed⟩
    next => cases taken

theorem identifier_took {name : String} {fewer : rest.length < ts.length} (fit : Fit ts)
    (taken : identifier issue ts = .ok ⟨name, rest, fewer⟩) :
    ∃ t, ts = t :: rest ∧ t.IsName ∧ t.literal = name := by
  cases ts with
  | nil => cases taken
  | cons u us =>
    simp only [identifier] at taken
    split at taken
    next same =>
      cases taken
      exact ⟨u, rfl, ⟨eq_of_beq same, fit u List.mem_cons_self⟩, rfl⟩
    next => cases taken

/-! ## Literals -/

/-- The value read from a well-formed token is the one that it is a literal of. -/
theorem literal?_denotes {t : Token} {value : Value} (shape : t.WellFormed)
    (read : literal? t rest = some (.ok value)) : t.Denotes value := by
  unfold literal? at read
  split at read
  next word =>
    cases read
    exact .nil (shape.is (eq_of_beq word) (by decide))
  next =>
  split at read
  next word =>
    cases read
    exact .true (shape.is (eq_of_beq word) (by decide))
  next =>
  split at read
  next word =>
    cases read
    exact .false (shape.is (eq_of_beq word) (by decide))
  next =>
  unfold Token.WellFormed at shape
  split at read
  next kind =>
    rw [kind] at shape
    obtain ⟨n, shape⟩ := shape
    cases readInteger : Numeral.read t.literal.toList with
    | error cause =>
      rw [readInteger] at read
      cases read
    | ok m =>
      rw [readInteger] at read
      cases read
      rw [Numeral.eq_of_read_of_integerOf shape readInteger]
      exact .integer kind shape
  next kind =>
    rw [kind] at shape
    obtain ⟨d, shape⟩ := shape
    rw [Decimal.read?_of_decimalOf shape] at read
    cases read
    exact .decimal kind shape
  next kind =>
    rw [kind] at shape
    obtain ⟨cs, shape⟩ := shape
    cases read
    rw [unescape_inner_of_stringOf shape]
    exact .string kind shape
  next kind =>
    rw [kind] at shape
    obtain ⟨c, shape⟩ := shape
    rw [unescape_inner_of_characterOf shape] at read
    cases read
    exact .character kind shape
  next => cases read

/-! ## Expressions -/

theorem operator?_eq_some {level : Level} {t : Token} {op : Operator}
    (found : level.operator? t = some op) : op ∈ level.operators ∧ op.symbol = t.literal := by
  have same := List.find?_some found
  exact ⟨List.mem_of_find?_eq_some found, eq_of_beq same⟩

theorem symbol_mem_vocabulary {level : Level} {op : Operator} (listed : op ∈ level.operators) :
    op.symbol ∈ Lexeme.vocabulary := by
  have all : ∀ op ∈ Level.logical.operators ++ Level.comparison.operators ++ Level.additive.operators ++
      Level.multiplicative.operators, op.symbol ∈ Lexeme.vocabulary := by decide
  cases level <;> exact all op (by simp [listed])

mutual
theorem operation_sound {level : Level} {ts rest : List Token} {e : Expr} {fewer : rest.length < ts.length}
    (fit : Fit ts) (read : operation level ts = .ok ⟨e, rest, fewer⟩) :
    ∃ us, ts = us ++ rest ∧ Derives (.operation level) us e := by
  rw [operation] at read
  obtain ⟨⟨left, mid, shorter⟩, readLeft, read⟩ := Except.bind_eq_ok_iff.mp read
  obtain ⟨⟨whole, last, shorter'⟩, readOthers, read⟩ := Except.bind_eq_ok_iff.mp read
  cases read
  obtain ⟨us, rfl, first⟩ := operand_sound fit readLeft
  obtain ⟨vs, tail, rfl, others, rfl⟩ := operations_sound fit.of_append readOthers
  refine ⟨us ++ vs, by simp, ?_⟩
  rw [first.begins.2]
  exact .operation first others
termination_by (ts.length, 2 * level.rank + 1)
decreasing_by
  all_goals simp only [Prod.lex_def, true_and, Level.rank]
  all_goals omega

theorem operand_sound {level : Level} {ts rest : List Token} {e : Expr} {fewer : rest.length < ts.length}
    (fit : Fit ts) (read : operand level ts = .ok ⟨e, rest, fewer⟩) :
    ∃ us, ts = us ++ rest ∧ Derives (.operand level) us e := by
  rw [operand.eq_def] at read
  cases level with
  | logical =>
    obtain ⟨us, rfl, derived⟩ := operation_sound fit read
    exact ⟨us, rfl, .comparison derived⟩
  | comparison =>
    obtain ⟨us, rfl, derived⟩ := operation_sound fit read
    exact ⟨us, rfl, .additive derived⟩
  | additive =>
    obtain ⟨us, rfl, derived⟩ := operation_sound fit read
    exact ⟨us, rfl, .multiplicative derived⟩
  | multiplicative =>
    obtain ⟨us, rfl, derived⟩ := secondary_sound fit read
    exact ⟨us, rfl, .factor derived⟩
termination_by (ts.length, 2 * level.rank)

theorem operations_sound {level : Level} {left : Expr} {ts rest : List Token} {e : Expr}
    {fewer : rest.length < ts.length + 1} (fit : Fit ts)
    (read : operations level left ts = .ok ⟨e, rest, fewer⟩) :
    ∃ us tail, ts = us ++ rest ∧ Derives (.operations level) us tail ∧ e = grouped left.offset left tail := by
  rw [operations.eq_def] at read
  split at read
  next =>
    cases read
    exact ⟨[], [], rfl, .noOperations, rfl⟩
  next t more =>
    split at read
    next =>
      cases read
      exact ⟨[], [], rfl, .noOperations, rfl⟩
    next op found =>
      obtain ⟨⟨right, mid, shorter⟩, readRight, read⟩ := Except.bind_eq_ok_iff.mp read
      obtain ⟨⟨whole, last, shorter'⟩, readOthers, read⟩ := Except.bind_eq_ok_iff.mp read
      cases read
      obtain ⟨listed, symbol⟩ := operator?_eq_some found
      obtain ⟨us, rfl, operand⟩ := operand_sound fit.of_cons readRight
      obtain ⟨vs, tail, rfl, others, rfl⟩ := operations_sound fit.of_cons.of_append readOthers
      have isSymbol := (fit t List.mem_cons_self).is symbol.symm (symbol_mem_vocabulary listed)
      exact ⟨[t] ++ us ++ vs, (op, right) :: tail, by simp, .operations listed isSymbol operand others, rfl⟩
termination_by (ts.length, 0)

theorem secondary_sound {ts rest : List Token} {e : Expr} {fewer : rest.length < ts.length}
    (fit : Fit ts) (read : secondary ts = .ok ⟨e, rest, fewer⟩) :
    ∃ us, ts = us ++ rest ∧ Derives .secondary us e := by
  rw [secondary] at read
  obtain ⟨⟨receiver, mid, shorter⟩, readFirst, read⟩ := Except.bind_eq_ok_iff.mp read
  obtain ⟨⟨whole, last, shorter'⟩, readOthers, read⟩ := Except.bind_eq_ok_iff.mp read
  cases read
  obtain ⟨us, rfl, first⟩ := primary_sound fit readFirst
  obtain ⟨vs, chained, rfl, others, rfl⟩ := links_sound fit.of_append readOthers
  refine ⟨us ++ vs, by simp, ?_⟩
  rw [first.begins.2]
  exact .secondary first others
termination_by (ts.length, 1)
decreasing_by
  all_goals simp only [Prod.lex_def, true_and]
  all_goals omega

theorem links_sound {receiver : Expr} {ts rest : List Token} {e : Expr}
    {fewer : rest.length < ts.length + 1} (fit : Fit ts) (read : links receiver ts = .ok ⟨e, rest, fewer⟩) :
    ∃ us chained, ts = us ++ rest ∧ Derives .links us chained ∧ e = chain receiver.offset receiver chained := by
  rw [links] at read
  split at read
  next =>
    cases read
    exact ⟨[], [], rfl, .noLinks, rfl⟩
  next point afterPoint shorter accepted =>
    obtain ⟨rfl, isPoint⟩ := accept?_took fit accepted (by decide)
    obtain ⟨⟨name, afterName, shorter'⟩, readName, read⟩ := Except.bind_eq_ok_iff.mp read
    obtain ⟨nameToken, rfl, isName, rfl⟩ := identifier_took fit.of_cons readName
    dsimp only at read
    split at read
    next =>
      obtain ⟨⟨whole, last, shorter''⟩, readOthers, read⟩ := Except.bind_eq_ok_iff.mp read
      cases read
      obtain ⟨us, chained, rfl, others, rfl⟩ := links_sound fit.of_cons.of_cons readOthers
      exact ⟨[point, nameToken] ++ us, _, rfl, .fieldLink isPoint isName others, rfl⟩
    next opening inside shorter'' accepted =>
      obtain ⟨rfl, isOpening⟩ := accept?_took fit.of_cons.of_cons accepted (by decide)
      obtain ⟨⟨args, afterArgs, shorter₃⟩, readArgs, read⟩ := Except.bind_eq_ok_iff.mp read
      obtain ⟨⟨whole, last, shorter₄⟩, readOthers, read⟩ := Except.bind_eq_ok_iff.mp read
      cases read
      obtain ⟨us, closing, rfl, arguments, isClosing⟩ := arguments_sound fit.of_cons.of_cons.of_cons readArgs
      obtain ⟨vs, chained, rfl, others, rfl⟩ :=
        links_sound (fit.of_cons.of_cons.of_cons.of_append.of_cons) readOthers
      exact ⟨[point, nameToken, opening] ++ us ++ [closing] ++ vs, _, by simp,
        .callLink isPoint isName isOpening arguments isClosing others, rfl⟩
termination_by (ts.length, 0)
decreasing_by
  all_goals simp only [Prod.lex_def]
  all_goals omega

theorem arguments_sound {ts rest : List Token} {args : List Expr} {fewer : rest.length < ts.length}
    (fit : Fit ts) (read : arguments ts = .ok ⟨args, rest, fewer⟩) :
    ∃ us closing, ts = us ++ closing :: rest ∧ Derives .arguments us args ∧ closing.Is ")" := by
  rw [arguments] at read
  split at read
  next closing afterClosing shorter accepted =>
    cases read
    obtain ⟨rfl, isClosing⟩ := accept?_took fit accepted (by decide)
    exact ⟨[], closing, rfl, .noArguments, isClosing⟩
  next =>
    obtain ⟨us, closing, rfl, derived, isClosing⟩ := argumentList_sound fit read
    exact ⟨us, closing, rfl, .arguments derived, isClosing⟩
termination_by (ts.length, 11)
decreasing_by
  all_goals simp only [Prod.lex_def, true_and]
  all_goals omega

theorem argumentList_sound {ts rest : List Token} {args : List Expr} {fewer : rest.length < ts.length}
    (fit : Fit ts) (read : argumentList ts = .ok ⟨args, rest, fewer⟩) :
    ∃ us closing, ts = us ++ closing :: rest ∧ Derives .argumentList us args ∧ closing.Is ")" := by
  rw [argumentList] at read
  obtain ⟨⟨e, afterFirst, shorter⟩, readFirst, read⟩ := Except.bind_eq_ok_iff.mp read
  obtain ⟨us, rfl, expression⟩ := operation_sound fit readFirst
  dsimp only at read
  split at read
  next closing afterClosing shorter' accepted =>
    cases read
    obtain ⟨rfl, isClosing⟩ := accept?_took fit.of_append accepted (by decide)
    exact ⟨us, closing, rfl, .lastArgument expression, isClosing⟩
  next =>
    obtain ⟨⟨comma, afterComma, shorter'⟩, readComma, read⟩ := Except.bind_eq_ok_iff.mp read
    obtain ⟨⟨es, last, shorter''⟩, readOthers, read⟩ := Except.bind_eq_ok_iff.mp read
    cases read
    obtain ⟨rfl, isComma⟩ := expect_took fit.of_append readComma (by decide)
    obtain ⟨vs, closing, rfl, others, isClosing⟩ := argumentList_sound fit.of_append.of_cons readOthers
    exact ⟨us ++ [comma] ++ vs, closing, by simp, .argument expression isComma others, isClosing⟩
termination_by (ts.length, 10)
decreasing_by
  all_goals simp only [Prod.lex_def, true_and, Level.rank]
  all_goals omega

theorem primary_sound {ts rest : List Token} {e : Expr} {fewer : rest.length < ts.length}
    (fit : Fit ts) (read : primary ts = .ok ⟨e, rest, fewer⟩) :
    ∃ us, ts = us ++ rest ∧ Derives .primary us e := by
  rw [primary.eq_def] at read
  split at read
  next => cases read
  next t more =>
    have shape := fit t List.mem_cons_self
    split at read
    next value readValue =>
      cases read
      exact ⟨[t], rfl, .literal (literal?_denotes shape readValue)⟩
    next => cases read
    next =>
      split at read
      next isParen =>
        obtain ⟨⟨inside, afterInside, shorter⟩, readInside, read⟩ := Except.bind_eq_ok_iff.mp read
        obtain ⟨⟨closing, last, shorter'⟩, readClosing, read⟩ := Except.bind_eq_ok_iff.mp read
        cases read
        obtain ⟨us, rfl, expression⟩ := operation_sound fit.of_cons readInside
        obtain ⟨rfl, isClosing⟩ := expect_took fit.of_cons.of_append readClosing (by decide)
        have isOpening := shape.is (eq_of_beq isParen) (by decide)
        exact ⟨[t] ++ us ++ [closing], by simp, .group isOpening expression isClosing⟩
      next =>
        split at read
        next isIdentifier =>
          have isName : t.IsName := ⟨eq_of_beq isIdentifier, shape⟩
          split at read
          next =>
            cases read
            exact ⟨[t], rfl, .name isName⟩
          next opening inside shorter accepted =>
            obtain ⟨⟨args, last, shorter'⟩, readArgs, read⟩ := Except.bind_eq_ok_iff.mp read
            cases read
            obtain ⟨rfl, isOpening⟩ := accept?_took fit.of_cons accepted (by decide)
            obtain ⟨us, closing, rfl, arguments, isClosing⟩ := arguments_sound fit.of_cons.of_cons readArgs
            exact ⟨[t, opening] ++ us ++ [closing], by simp, .call isName isOpening arguments isClosing⟩
        next => cases read
termination_by (ts.length, 0)
end

/-! ## Statements -/

theorem typeClause_sound {type : Option String} {fewer : rest.length < ts.length + 1} (fit : Fit ts)
    (read : typeClause ts = .ok ⟨type, rest, fewer⟩) :
    ∃ us, ts = us ++ rest ∧ Derives .typeClause us type := by
  rw [typeClause] at read
  split at read
  next =>
    cases read
    exact ⟨[], rfl, .noType⟩
  next colon afterColon shorter accepted =>
    obtain ⟨rfl, isColon⟩ := accept?_took fit accepted (by decide)
    obtain ⟨⟨name, last, shorter'⟩, readName, read⟩ := Except.bind_eq_ok_iff.mp read
    cases read
    obtain ⟨nameToken, rfl, isName, rfl⟩ := identifier_took fit.of_cons readName
    exact ⟨[colon, nameToken], rfl, .type isColon isName⟩

theorem valueClause_sound {value : Option Expr} {fewer : rest.length < ts.length + 1} (fit : Fit ts)
    (read : valueClause ts = .ok ⟨value, rest, fewer⟩) :
    ∃ us, ts = us ++ rest ∧ Derives .valueClause us value := by
  rw [valueClause] at read
  split at read
  next =>
    cases read
    exact ⟨[], rfl, .noValue⟩
  next equals afterEquals shorter accepted =>
    obtain ⟨rfl, isEquals⟩ := accept?_took fit accepted (by decide)
    obtain ⟨⟨e, last, shorter'⟩, readValue, read⟩ := Except.bind_eq_ok_iff.mp read
    cases read
    obtain ⟨us, rfl, expression⟩ := operation_sound fit.of_cons readValue
    exact ⟨equals :: us, rfl, .value isEquals expression⟩

theorem declaration_sound {s : Stmt} {fewer : rest.length < ts.length} (fit : Fit ts)
    (read : declaration ts = .ok ⟨s, rest, fewer⟩) : ∃ us, ts = us ++ rest ∧ Derives .statement us s := by
  rw [declaration] at read
  obtain ⟨⟨start, rest₁, fewer₁⟩, readStart, read⟩ := Except.bind_eq_ok_iff.mp read
  obtain ⟨⟨name, rest₂, fewer₂⟩, readName, read⟩ := Except.bind_eq_ok_iff.mp read
  obtain ⟨⟨type, rest₃, fewer₃⟩, readType, read⟩ := Except.bind_eq_ok_iff.mp read
  obtain ⟨⟨value, rest₄, fewer₄⟩, readValue, read⟩ := Except.bind_eq_ok_iff.mp read
  obtain ⟨⟨semicolon, rest₅, fewer₅⟩, readEnd, read⟩ := Except.bind_eq_ok_iff.mp read
  cases read
  obtain ⟨rfl, isStart⟩ := expect_took fit readStart (by decide)
  obtain ⟨nameToken, rfl, isName, rfl⟩ := identifier_took fit.of_cons readName
  obtain ⟨us, rfl, typeClause⟩ := typeClause_sound fit.of_cons.of_cons readType
  obtain ⟨vs, rfl, valueClause⟩ := valueClause_sound fit.of_cons.of_cons.of_append readValue
  obtain ⟨rfl, isEnd⟩ := expect_took fit.of_cons.of_cons.of_append.of_append readEnd (by decide)
  exact ⟨[start, nameToken] ++ us ++ vs ++ [semicolon], by simp,
    .declaration isStart isName typeClause valueClause isEnd⟩

theorem assignment_sound {s : Stmt} {fewer : rest.length < ts.length} (fit : Fit ts)
    (read : assignment ts = .ok ⟨s, rest, fewer⟩) : ∃ us, ts = us ++ rest ∧ Derives .statement us s := by
  rw [assignment] at read
  obtain ⟨⟨target, rest₁, fewer₁⟩, readTarget, read⟩ := Except.bind_eq_ok_iff.mp read
  obtain ⟨⟨value, rest₂, fewer₂⟩, readValue, read⟩ := Except.bind_eq_ok_iff.mp read
  obtain ⟨⟨semicolon, rest₃, fewer₃⟩, readEnd, read⟩ := Except.bind_eq_ok_iff.mp read
  obtain ⟨us, rfl, left⟩ := operation_sound fit readTarget
  obtain ⟨vs, rfl, clause⟩ := valueClause_sound fit.of_append readValue
  obtain ⟨rfl, isEnd⟩ := expect_took fit.of_append.of_append readEnd (by decide)
  rw [left.begins.2] at read
  cases clause with
  | noValue =>
    cases read
    exact ⟨us ++ [semicolon], by simp, .expression left isEnd⟩
  | @value equals ws e isEquals right =>
    cases read
    exact ⟨us ++ [equals] ++ ws ++ [semicolon], by simp, .assignment left isEquals right isEnd⟩

theorem returning_sound {s : Stmt} {fewer : rest.length < ts.length} (fit : Fit ts)
    (read : returning ts = .ok ⟨s, rest, fewer⟩) : ∃ us, ts = us ++ rest ∧ Derives .statement us s := by
  rw [returning] at read
  obtain ⟨⟨start, rest₁, fewer₁⟩, readStart, read⟩ := Except.bind_eq_ok_iff.mp read
  obtain ⟨⟨value, rest₂, fewer₂⟩, readValue, read⟩ := Except.bind_eq_ok_iff.mp read
  obtain ⟨⟨semicolon, rest₃, fewer₃⟩, readEnd, read⟩ := Except.bind_eq_ok_iff.mp read
  cases read
  obtain ⟨rfl, isStart⟩ := expect_took fit readStart (by decide)
  obtain ⟨us, rfl, expression⟩ := operation_sound fit.of_cons readValue
  obtain ⟨rfl, isEnd⟩ := expect_took fit.of_cons.of_append readEnd (by decide)
  exact ⟨[start] ++ us ++ [semicolon], by simp, .returning isStart expression isEnd⟩

mutual
theorem statement_sound {ts rest : List Token} {s : Stmt} {fewer : rest.length < ts.length} (fit : Fit ts)
    (read : statement ts = .ok ⟨s, rest, fewer⟩) : ∃ us, ts = us ++ rest ∧ Derives .statement us s := by
  rw [statement] at read
  split at read
  next => exact declaration_sound fit read
  next => exact conditional_sound fit read
  next => exact forEach_sound fit read
  next => exact whileLoop_sound fit read
  next => exact returning_sound fit read
  next => exact assignment_sound fit read
termination_by (ts.length, 1)
decreasing_by
  all_goals simp only [Prod.lex_def, true_and]
  all_goals omega

theorem conditional_sound {ts rest : List Token} {s : Stmt} {fewer : rest.length < ts.length} (fit : Fit ts)
    (read : conditional ts = .ok ⟨s, rest, fewer⟩) : ∃ us, ts = us ++ rest ∧ Derives .statement us s := by
  rw [conditional] at read
  obtain ⟨⟨start, rest₁, fewer₁⟩, readStart, read⟩ := Except.bind_eq_ok_iff.mp read
  obtain ⟨⟨condition, rest₂, fewer₂⟩, readCondition, read⟩ := Except.bind_eq_ok_iff.mp read
  obtain ⟨⟨begin, rest₃, fewer₃⟩, readDo, read⟩ := Except.bind_eq_ok_iff.mp read
  obtain ⟨⟨thenPart, rest₄, fewer₄⟩, readThen, read⟩ := Except.bind_eq_ok_iff.mp read
  obtain ⟨rfl, isStart⟩ := expect_took fit readStart (by decide)
  obtain ⟨us, rfl, expression⟩ := operation_sound fit.of_cons readCondition
  obtain ⟨rfl, isDo⟩ := expect_took fit.of_cons.of_append readDo (by decide)
  have fitThen := fit.of_cons.of_append.of_cons
  obtain ⟨vs, rfl, thenStatements⟩ := block_sound fitThen readThen
  dsimp only at read
  split at read
  next =>
    obtain ⟨⟨stop, last, fewer₅⟩, readEnd, read⟩ := Except.bind_eq_ok_iff.mp read
    cases read
    obtain ⟨rfl, isEnd⟩ := expect_took fitThen.of_append readEnd (by decide)
    exact ⟨[start] ++ us ++ [begin] ++ vs ++ [] ++ [stop], by simp,
      .conditional isStart expression isDo thenStatements .noElse isEnd⟩
  next word afterElse fewer₅ accepted =>
    obtain ⟨⟨elsePart, rest₆, fewer₆⟩, readElse, read⟩ := Except.bind_eq_ok_iff.mp read
    obtain ⟨⟨stop, last, fewer₇⟩, readEnd, read⟩ := Except.bind_eq_ok_iff.mp read
    cases read
    obtain ⟨rfl, isWord⟩ := accept?_took fitThen.of_append accepted (by decide)
    obtain ⟨ws, rfl, elseStatements⟩ := block_sound fitThen.of_append.of_cons readElse
    obtain ⟨rfl, isEnd⟩ := expect_took fitThen.of_append.of_cons.of_append readEnd (by decide)
    exact ⟨[start] ++ us ++ [begin] ++ vs ++ (word :: ws) ++ [stop], by simp,
      .conditional isStart expression isDo thenStatements (.elseClause isWord elseStatements) isEnd⟩
termination_by (ts.length, 0)
decreasing_by
  all_goals simp only [Prod.lex_def]
  all_goals omega

theorem forEach_sound {ts rest : List Token} {s : Stmt} {fewer : rest.length < ts.length} (fit : Fit ts)
    (read : forEach ts = .ok ⟨s, rest, fewer⟩) : ∃ us, ts = us ++ rest ∧ Derives .statement us s := by
  rw [forEach] at read
  obtain ⟨⟨start, rest₁, fewer₁⟩, readStart, read⟩ := Except.bind_eq_ok_iff.mp read
  obtain ⟨⟨name, rest₂, fewer₂⟩, readName, read⟩ := Except.bind_eq_ok_iff.mp read
  obtain ⟨⟨within, rest₃, fewer₃⟩, readIn, read⟩ := Except.bind_eq_ok_iff.mp read
  obtain ⟨⟨iterable, rest₄, fewer₄⟩, readIterable, read⟩ := Except.bind_eq_ok_iff.mp read
  obtain ⟨⟨begin, rest₅, fewer₅⟩, readDo, read⟩ := Except.bind_eq_ok_iff.mp read
  obtain ⟨⟨body, rest₆, fewer₆⟩, readBody, read⟩ := Except.bind_eq_ok_iff.mp read
  obtain ⟨⟨stop, rest₇, fewer₇⟩, readEnd, read⟩ := Except.bind_eq_ok_iff.mp read
  cases read
  obtain ⟨rfl, isStart⟩ := expect_took fit readStart (by decide)
  obtain ⟨nameToken, rfl, isName, rfl⟩ := identifier_took fit.of_cons readName
  obtain ⟨rfl, isIn⟩ := expect_took fit.of_cons.of_cons readIn (by decide)
  have fitIterable := fit.of_cons.of_cons.of_cons
  obtain ⟨us, rfl, expression⟩ := operation_sound fitIterable readIterable
  obtain ⟨rfl, isDo⟩ := expect_took fitIterable.of_append readDo (by decide)
  have fitBody := fitIterable.of_append.of_cons
  obtain ⟨vs, rfl, statements⟩ := block_sound fitBody readBody
  obtain ⟨rfl, isEnd⟩ := expect_took fitBody.of_append readEnd (by decide)
  exact ⟨[start, nameToken, within] ++ us ++ [begin] ++ vs ++ [stop], by simp,
    .forEach isStart isName isIn expression isDo statements isEnd⟩
termination_by (ts.length, 0)
decreasing_by
  all_goals simp only [Prod.lex_def]
  all_goals omega

theorem whileLoop_sound {ts rest : List Token} {s : Stmt} {fewer : rest.length < ts.length} (fit : Fit ts)
    (read : whileLoop ts = .ok ⟨s, rest, fewer⟩) : ∃ us, ts = us ++ rest ∧ Derives .statement us s := by
  rw [whileLoop] at read
  obtain ⟨⟨start, rest₁, fewer₁⟩, readStart, read⟩ := Except.bind_eq_ok_iff.mp read
  obtain ⟨⟨condition, rest₂, fewer₂⟩, readCondition, read⟩ := Except.bind_eq_ok_iff.mp read
  obtain ⟨⟨begin, rest₃, fewer₃⟩, readDo, read⟩ := Except.bind_eq_ok_iff.mp read
  obtain ⟨⟨body, rest₄, fewer₄⟩, readBody, read⟩ := Except.bind_eq_ok_iff.mp read
  obtain ⟨⟨stop, rest₅, fewer₅⟩, readEnd, read⟩ := Except.bind_eq_ok_iff.mp read
  cases read
  obtain ⟨rfl, isStart⟩ := expect_took fit readStart (by decide)
  obtain ⟨us, rfl, expression⟩ := operation_sound fit.of_cons readCondition
  obtain ⟨rfl, isDo⟩ := expect_took fit.of_cons.of_append readDo (by decide)
  have fitBody := fit.of_cons.of_append.of_cons
  obtain ⟨vs, rfl, statements⟩ := block_sound fitBody readBody
  obtain ⟨rfl, isEnd⟩ := expect_took fitBody.of_append readEnd (by decide)
  exact ⟨[start] ++ us ++ [begin] ++ vs ++ [stop], by simp,
    .whileLoop isStart expression isDo statements isEnd⟩
termination_by (ts.length, 0)
decreasing_by
  all_goals simp only [Prod.lex_def]
  all_goals omega

theorem block_sound {stops : List String} {ts rest : List Token} {ss : List Stmt}
    {fewer : rest.length < ts.length + 1} (fit : Fit ts) (read : block stops ts = .ok ⟨ss, rest, fewer⟩) :
    ∃ us, ts = us ++ rest ∧ Derives .statements us ss := by
  cases ts with
  | nil => simp [block] at read
  | cons t more =>
    rw [block] at read
    split at read
    next =>
      cases read
      exact ⟨[], rfl, .noStatements⟩
    next =>
      obtain ⟨⟨s, rest₁, fewer₁⟩, readFirst, read⟩ := Except.bind_eq_ok_iff.mp read
      obtain ⟨⟨others, rest₂, fewer₂⟩, readOthers, read⟩ := Except.bind_eq_ok_iff.mp read
      cases read
      obtain ⟨us, same, first⟩ := statement_sound fit readFirst
      rw [same] at fit
      obtain ⟨vs, rfl, others⟩ := block_sound fit.of_append readOthers
      exact ⟨us ++ vs, by simp [same], .statements first others⟩
termination_by (ts.length, 2)
decreasing_by
  · subst_vars
    exact Prod.Lex.right _ (by decide)
  · subst_vars
    exact Prod.Lex.left _ _ (by assumption)
end

/-! ## Programs -/

theorem field_sound {f : Field} {fewer : rest.length < ts.length} (fit : Fit ts)
    (read : field ts = .ok ⟨f, rest, fewer⟩) : ∃ us, ts = us ++ rest ∧ Derives .field us f := by
  rw [field] at read
  obtain ⟨⟨start, rest₁, fewer₁⟩, readStart, read⟩ := Except.bind_eq_ok_iff.mp read
  obtain ⟨⟨name, rest₂, fewer₂⟩, readName, read⟩ := Except.bind_eq_ok_iff.mp read
  obtain ⟨⟨colon, rest₃, fewer₃⟩, readColon, read⟩ := Except.bind_eq_ok_iff.mp read
  obtain ⟨⟨type, rest₄, fewer₄⟩, readType, read⟩ := Except.bind_eq_ok_iff.mp read
  obtain ⟨⟨value, rest₅, fewer₅⟩, readValue, read⟩ := Except.bind_eq_ok_iff.mp read
  obtain ⟨⟨semicolon, rest₆, fewer₆⟩, readEnd, read⟩ := Except.bind_eq_ok_iff.mp read
  cases read
  obtain ⟨rfl, isStart⟩ := expect_took fit readStart (by decide)
  obtain ⟨nameToken, rfl, isName, rfl⟩ := identifier_took fit.of_cons readName
  obtain ⟨rfl, isColon⟩ := expect_took fit.of_cons.of_cons readColon (by decide)
  have fitType := fit.of_cons.of_cons.of_cons
  obtain ⟨typeToken, rfl, isType, rfl⟩ := identifier_took fitType readType
  obtain ⟨us, rfl, clause⟩ := valueClause_sound fitType.of_cons readValue
  obtain ⟨rfl, isEnd⟩ := expect_took fitType.of_cons.of_append readEnd (by decide)
  exact ⟨[start, nameToken, colon, typeToken] ++ us ++ [semicolon], by simp,
    .field isStart isName isColon isType clause isEnd⟩

theorem paramList_sound {ts rest : List Token} {ps : List Param} {fewer : rest.length < ts.length}
    (fit : Fit ts) (read : paramList ts = .ok ⟨ps, rest, fewer⟩) :
    ∃ us, ts = us ++ rest ∧ Derives .paramList us ps := by
  rw [paramList] at read
  obtain ⟨⟨name, rest₁, fewer₁⟩, readName, read⟩ := Except.bind_eq_ok_iff.mp read
  obtain ⟨⟨colon, rest₂, fewer₂⟩, readColon, read⟩ := Except.bind_eq_ok_iff.mp read
  obtain ⟨⟨type, rest₃, fewer₃⟩, readType, read⟩ := Except.bind_eq_ok_iff.mp read
  obtain ⟨nameToken, rfl, isName, rfl⟩ := identifier_took fit readName
  obtain ⟨rfl, isColon⟩ := expect_took fit.of_cons readColon (by decide)
  obtain ⟨typeToken, rfl, isType, rfl⟩ := identifier_took fit.of_cons.of_cons readType
  have fitRest := fit.of_cons.of_cons.of_cons
  dsimp only at read
  split at read
  next =>
    cases read
    exact ⟨[nameToken, colon, typeToken], rfl, .lastParam isName isColon isType⟩
  next comma rest₄ fewer₄ accepted =>
    obtain ⟨⟨others, rest₅, fewer₅⟩, readOthers, read⟩ := Except.bind_eq_ok_iff.mp read
    cases read
    obtain ⟨rfl, isComma⟩ := accept?_took fitRest accepted (by decide)
    obtain ⟨us, rfl, others⟩ := paramList_sound fitRest.of_cons readOthers
    exact ⟨[nameToken, colon, typeToken, comma] ++ us, rfl, .param isName isColon isType isComma others⟩
termination_by ts.length
decreasing_by all_goals omega

theorem params_sound {ps : List Param} {fewer : rest.length < ts.length + 1} (fit : Fit ts)
    (read : params ts = .ok ⟨ps, rest, fewer⟩) : ∃ us, ts = us ++ rest ∧ Derives .params us ps := by
  rw [params] at read
  split at read
  next =>
    cases read
    exact ⟨[], rfl, .noParams⟩
  next =>
    obtain ⟨⟨ps, last, shorter⟩, readSome, read⟩ := Except.bind_eq_ok_iff.mp read
    cases read
    obtain ⟨us, rfl, derived⟩ := paramList_sound fit readSome
    exact ⟨us, rfl, .params derived⟩

theorem method_sound {m : Method} {fewer : rest.length < ts.length} (fit : Fit ts)
    (read : method ts = .ok ⟨m, rest, fewer⟩) : ∃ us, ts = us ++ rest ∧ Derives .method us m := by
  rw [method] at read
  obtain ⟨⟨start, rest₁, fewer₁⟩, readStart, read⟩ := Except.bind_eq_ok_iff.mp read
  obtain ⟨⟨name, rest₂, fewer₂⟩, readName, read⟩ := Except.bind_eq_ok_iff.mp read
  obtain ⟨⟨opening, rest₃, fewer₃⟩, readOpening, read⟩ := Except.bind_eq_ok_iff.mp read
  obtain ⟨⟨ps, rest₄, fewer₄⟩, readParams, read⟩ := Except.bind_eq_ok_iff.mp read
  obtain ⟨⟨closing, rest₅, fewer₅⟩, readClosing, read⟩ := Except.bind_eq_ok_iff.mp read
  obtain ⟨⟨result, rest₆, fewer₆⟩, readResult, read⟩ := Except.bind_eq_ok_iff.mp read
  obtain ⟨⟨begin, rest₇, fewer₇⟩, readDo, read⟩ := Except.bind_eq_ok_iff.mp read
  obtain ⟨⟨body, rest₈, fewer₈⟩, readBody, read⟩ := Except.bind_eq_ok_iff.mp read
  obtain ⟨⟨stop, rest₉, fewer₉⟩, readEnd, read⟩ := Except.bind_eq_ok_iff.mp read
  cases read
  obtain ⟨rfl, isStart⟩ := expect_took fit readStart (by decide)
  obtain ⟨nameToken, rfl, isName, rfl⟩ := identifier_took fit.of_cons readName
  obtain ⟨rfl, isOpening⟩ := expect_took fit.of_cons.of_cons readOpening (by decide)
  have fitParams := fit.of_cons.of_cons.of_cons
  obtain ⟨us, rfl, params⟩ := params_sound fitParams readParams
  obtain ⟨rfl, isClosing⟩ := expect_took fitParams.of_append readClosing (by decide)
  have fitResult := fitParams.of_append.of_cons
  obtain ⟨vs, rfl, clause⟩ := typeClause_sound fitResult readResult
  obtain ⟨rfl, isDo⟩ := expect_took fitResult.of_append readDo (by decide)
  have fitBody := fitResult.of_append.of_cons
  obtain ⟨ws, rfl, statements⟩ := block_sound fitBody readBody
  obtain ⟨rfl, isEnd⟩ := expect_took fitBody.of_append readEnd (by decide)
  exact ⟨[start, nameToken, opening] ++ us ++ [closing] ++ vs ++ [begin] ++ ws ++ [stop], by simp,
    .method isStart isName isOpening params isClosing clause isDo statements isEnd⟩

theorem methods_sound {ts : List Token} {ms : List Method} (fit : Fit ts) (read : methods ts = .ok ms) :
    Derives .methods ts ms := by
  cases ts with
  | nil =>
    simp only [methods] at read
    cases read
    exact .noMethods
  | cons t more =>
    rw [methods] at read
    split at read
    next => cases read
    next =>
      split at read
      next =>
        obtain ⟨⟨m, rest, fewer⟩, readFirst, read⟩ := Except.bind_eq_ok_iff.mp read
        obtain ⟨others, readOthers, read⟩ := Except.bind_eq_ok_iff.mp read
        cases read
        obtain ⟨us, same, first⟩ := method_sound fit readFirst
        rw [same] at fit ⊢
        exact .methods first (methods_sound fit.of_append readOthers)
      next => cases read
termination_by ts.length

/-- A program read from well-formed tokens is the tree of a derivation of all of them. -/
theorem source_sound {ts : List Token} {s : Source} (fit : Fit ts) (read : source ts = .ok s) :
    Derives .source ts s := by
  cases ts with
  | nil =>
    simp only [source] at read
    cases read
    exact .source .noFields .noMethods
  | cons t more =>
    rw [source] at read
    split at read
    next =>
      obtain ⟨⟨f, rest, fewer⟩, readFirst, read⟩ := Except.bind_eq_ok_iff.mp read
      obtain ⟨others, readOthers, read⟩ := Except.bind_eq_ok_iff.mp read
      cases read
      obtain ⟨us, same, first⟩ := field_sound fit readFirst
      rw [same] at fit ⊢
      -- The fields that follow are those of the rest, whose methods are the methods of the whole.
      cases source_sound fit.of_append readOthers with
      | source fields methods =>
        rw [← List.append_assoc]
        exact .source (.fields first fields) methods
    next =>
      obtain ⟨ms, readMethods, read⟩ := Except.bind_eq_ok_iff.mp read
      cases read
      exact .source .noFields (methods_sound fit readMethods)
termination_by ts.length

end Reading

end Primer
