import Mathlib
import Primer.Grammar.Rule
import Primer.Proofs.Grammar.Soundness

/-!
# What is derived the reader accepts

A reader takes as much as it can, so it takes exactly a phrase only if the next token could not go on with
it. `Symbol.Ends` says for each symbol which tokens may follow; the rules of the grammar are such that
every phrase inside another is followed by one of them.

**The law** (`source_complete`): tokens derived as a program are read as the tree of the derivation. Since
the reader gives one answer, no tokens are derived with two trees.

The induction is over derivations, all symbols at once. Its statement for a symbol, `Symbol.Reads`, is
that of the reader of the symbol; for the repeated parts it is quantified over what stands on the left.
-/

namespace Primer

namespace Grammar

/-! ## What may follow -/

/-- That the next token, if there is one, has none of these texts. -/
def NotNext (texts : List String) (rest : List Token) : Prop :=
  ∀ t ∈ rest.head?, t.literal ∉ texts

/-- That there is a next token with one of these texts. -/
def Next (texts : List String) (rest : List Token) : Prop :=
  ∃ t more, rest = t :: more ∧ t.literal ∈ texts

/-- The texts that go on with an operand of a level. -/
def operandTails : Level → List String
  | .logical => ["<", "<=", ">", ">=", "==", "!=", "+", "-", "*", "/", ".", "("]
  | .comparison => ["+", "-", "*", "/", ".", "("]
  | .additive => ["*", "/", ".", "("]
  | .multiplicative => [".", "("]

/-- The texts that go on with an operation of a level. -/
def operationTails (level : Level) : List String :=
  level.operators.map Operator.symbol ++ operandTails level

/-- What may follow a phrase of a symbol, for a reader to take the phrase and nothing else. -/
def Symbol.Ends : Symbol → List Token → Prop
  | source, rest => rest = []
  | methods, rest => rest = []
  | params, rest => Next [")"] rest
  | paramList, rest => NotNext [","] rest
  | typeClause, rest => NotNext [":"] rest
  | valueClause, rest => NotNext ("=" :: operationTails .logical) rest
  | elseClause, rest => Next ["END"] rest
  | operation level, rest => NotNext (operationTails level) rest
  | operand level, rest => NotNext (operandTails level) rest
  | operations level, rest => NotNext (operationTails level) rest
  | secondary, rest => NotNext [".", "("] rest
  | links, rest => NotNext [".", "("] rest
  | primary, rest => NotNext ["("] rest
  | arguments, rest => Next [")"] rest
  | argumentList, rest => Next [")"] rest
  | _, _ => True

theorem notNext_nil (texts : List String) : NotNext texts [] := by
  simp [NotNext]

theorem notNext_cons {texts : List String} {t : Token} {rest : List Token} :
    NotNext texts (t :: rest) ↔ t.literal ∉ texts := by
  simp [NotNext]

theorem NotNext.mono {texts fewer : List String} {rest : List Token} (ends : NotNext texts rest)
    (subset : fewer ⊆ texts) : NotNext fewer rest :=
  fun t first mem => ends t first (subset mem)

theorem Next.notNext {texts others : List String} {rest : List Token} (next : Next texts rest)
    (apart : ∀ text ∈ texts, text ∉ others) : NotNext others rest := by
  obtain ⟨t, more, rfl, listed⟩ := next
  exact notNext_cons.mpr (apart _ listed)

/-! ## How phrases open -/

/-- Texts that readers look for where an expression may stand instead. -/
def notFirst : List String :=
  ["LET", "IF", "FOR", "WHILE", "RETURN", "ELSE", "END", ")"]

/-- What the first token of a phrase is, or is not. -/
def Symbol.Opens : Symbol → List Token → Prop
  | field, us => Next ["LET"] us
  | methods, us => us = [] ∨ Next ["DEF"] us
  | method, us => Next ["DEF"] us
  | paramList, us => us ≠ [] ∧ NotNext [")"] us
  | typeClause, us => us = [] ∨ Next [":"] us
  | valueClause, us => us = [] ∨ Next ["="] us
  | elseClause, us => us = [] ∨ Next ["ELSE"] us
  | statement, us => us ≠ [] ∧ NotNext ["ELSE", "END"] us
  | operation _, us => us ≠ [] ∧ NotNext notFirst us
  | operand _, us => us ≠ [] ∧ NotNext notFirst us
  | operations level, us => us = [] ∨ Next (level.operators.map Operator.symbol) us
  | links, us => us = [] ∨ Next ["."] us
  | secondary, us => us ≠ [] ∧ NotNext notFirst us
  | primary, us => us ≠ [] ∧ NotNext notFirst us
  | argumentList, us => us ≠ [] ∧ NotNext notFirst us
  | _, _ => True

end Grammar

namespace Token

open Grammar

theorem IsName.literal_not_mem {t : Token} (isName : t.IsName) : t.literal ∉ Lexeme.vocabulary := by
  intro listed
  have kind := isName.2.kind_eq_operator listed
  rw [isName.1] at kind
  cases kind

/-- A literal that is no word has no text that readers look for. -/
theorem Denotes.literal_not_mem {t : Token} {value : Value} (denotes : t.Denotes value)
    (other : t.kind ≠ .operator) : t.literal ∉ Lexeme.vocabulary := by
  cases denotes with
  | nil word => exact absurd word.1 other
  | true word => exact absurd word.1 other
  | false word => exact absurd word.1 other
  | integer _ shape => exact Lexeme.not_mem_vocabulary_of_isDigit shape.exists_isDigit
  | decimal _ shape => exact Lexeme.not_mem_vocabulary_of_isDigit shape.exists_isDigit
  | character _ shape =>
    generalize spelled : t.literal.toList = cs at shape
    cases shape
    exact Lexeme.not_mem_vocabulary_of_quote (.inl rfl) spelled
  | string _ shape =>
    generalize spelled : t.literal.toList = cs at shape
    cases shape
    exact Lexeme.not_mem_vocabulary_of_quote (.inr rfl) spelled

end Token

namespace Grammar

theorem next_of_is {texts : List String} {t : Token} {text : String} (is : t.Is text)
    (listed : text ∈ texts) (rest : List Token) : Next texts (t :: rest) :=
  ⟨t, rest, rfl, is.2 ▸ listed⟩

theorem Next.append {texts : List String} {us : List Token} (next : Next texts us) (vs : List Token) :
    Next texts (us ++ vs) := by
  obtain ⟨t, more, rfl, listed⟩ := next
  exact ⟨t, more ++ vs, rfl, listed⟩

/-- What may not follow an optional phrase may not open it either. -/
theorem NotNext.of_optional {texts others : List String} {us rest : List Token}
    (ends : NotNext others rest) (opens : us = [] ∨ Next texts us)
    (apart : ∀ text ∈ texts, text ∉ others) : NotNext others (us ++ rest) := by
  rcases opens with rfl | next
  · exact ends
  · exact (next.append rest).notNext apart

theorem NotNext.append {texts : List String} {us : List Token} (nonempty : us ≠ [])
    (first : NotNext texts us) (vs : List Token) : NotNext texts (us ++ vs) := by
  cases us with
  | nil => exact absurd rfl nonempty
  | cons u us => exact first

theorem notNext_of_isName {texts : List String} {t : Token} (isName : t.IsName)
    (listed : texts ⊆ Lexeme.vocabulary) (rest : List Token) : NotNext texts (t :: rest) :=
  notNext_cons.mpr fun mem => isName.literal_not_mem (listed mem)

theorem notNext_of_is {texts : List String} {t : Token} {text : String} (is : t.Is text)
    (apart : text ∉ texts) (rest : List Token) : NotNext texts (t :: rest) := by
  rw [notNext_cons, is.2]
  exact apart

theorem notNext_notFirst_of_denotes {t : Token} {value : Value} (denotes : t.Denotes value)
    (rest : List Token) : NotNext notFirst (t :: rest) := by
  have listed : notFirst ⊆ Lexeme.vocabulary := by decide
  rw [notNext_cons]
  by_cases kind : t.kind = .operator
  · cases denotes with
    | nil word | true word | false word => rw [word.2]; decide
    | integer other | decimal other | character other | string other => rw [kind] at other; cases other
  · exact fun mem => denotes.literal_not_mem kind (listed mem)

theorem Derives.opens {symbol : Symbol} {us : List Token} {tree : symbol.Tree}
    (derived : Derives symbol us tree) : symbol.Opens us := by
  have statementStart : ["ELSE", "END"] ⊆ notFirst := by decide
  induction derived with
  | field isStart => exact next_of_is isStart (by simp) _
  | noMethods => exact .inl rfl
  | methods _ _ ih => exact .inr (ih.append _)
  | method isStart => exact next_of_is isStart (by simp) _
  | lastParam isName => exact ⟨by simp, notNext_of_isName isName (by decide) _⟩
  | param isName => exact ⟨by simp, notNext_of_isName isName (by decide) _⟩
  | noType => exact .inl rfl
  | type isColon => exact .inr (next_of_is isColon (by simp) _)
  | noValue => exact .inl rfl
  | value isEquals => exact .inr (next_of_is isEquals (by simp) _)
  | declaration isStart => exact ⟨by simp, notNext_of_is isStart (by decide) _⟩
  | conditional isStart => exact ⟨by simp, notNext_of_is isStart (by decide) _⟩
  | noElse => exact .inl rfl
  | elseClause isWord => exact .inr (next_of_is isWord (by simp) _)
  | forEach isStart => exact ⟨by simp, notNext_of_is isStart (by decide) _⟩
  | whileLoop isStart => exact ⟨by simp, notNext_of_is isStart (by decide) _⟩
  | returning isStart => exact ⟨by simp, notNext_of_is isStart (by decide) _⟩
  | expression _ _ ih => exact ⟨by simp, (ih.2.mono statementStart).append ih.1 _⟩
  | assignment _ _ _ _ ih =>
    refine ⟨by simp, ?_⟩
    simp only [List.append_assoc]
    exact (ih.2.mono statementStart).append ih.1 _
  | operation _ _ ih => exact ⟨by simp [ih.1], ih.2.append ih.1 _⟩
  | noOperations => exact .inl rfl
  | operations listed isSymbol => exact .inr (next_of_is isSymbol (List.mem_map_of_mem listed) _)
  | comparison _ ih => exact ih
  | additive _ ih => exact ih
  | multiplicative _ ih => exact ih
  | factor _ ih => exact ih
  | secondary _ _ ih => exact ⟨by simp [ih.1], ih.2.append ih.1 _⟩
  | noLinks => exact .inl rfl
  | fieldLink isPoint => exact .inr (next_of_is isPoint (by simp) _)
  | callLink isPoint => exact .inr (next_of_is isPoint (by simp) _)
  | lastArgument _ ih => exact ih
  | argument _ _ _ ih =>
    refine ⟨by simp, ?_⟩
    rw [List.append_assoc]
    exact ih.2.append ih.1 _
  | literal denotes => exact ⟨by simp, notNext_notFirst_of_denotes denotes _⟩
  | group isOpening => exact ⟨by simp, notNext_of_is isOpening (by decide) _⟩
  | name isName => exact ⟨by simp, notNext_of_isName isName (by decide) _⟩
  | call isName => exact ⟨by simp, notNext_of_isName isName (by decide) _⟩
  | _ => trivial

end Grammar

/-- That an integer literal is short enough to be read. -/
def Token.Readable (t : Token) : Prop :=
  t.kind = .integer → t.literal.toList.countP Char.isDigit ≤ Numeral.digitLimit

namespace Reading

open Grammar

/-! ## Single tokens -/

/-- That a reader takes a phrase and leaves the rest. -/
def Yields {bound : Nat} {α : Type} (read : Except ParseFailure (Parsed bound α)) (value : α)
    (rest : List Token) : Prop :=
  ∃ fewer, read = .ok ⟨value, rest, fewer⟩

variable {bound bound' : Nat} {α β : Type} {ts rest rest' : List Token} {t : Token} {text : String}
  {issue : ParseIssue}

theorem Yields.bind {read : Except ParseFailure (Parsed bound α)} {a : α} {b : β}
    {next : Parsed bound α → Except ParseFailure (Parsed bound' β)} (first : Yields read a rest)
    (others : ∀ fewer, Yields (next ⟨a, rest, fewer⟩) b rest') : Yields (read >>= next) b rest' := by
  obtain ⟨fewer, rfl⟩ := first
  exact others fewer

theorem yields_ok {a : α} {fewer : rest.length < bound} : Yields (.ok ⟨a, rest, fewer⟩) a rest :=
  ⟨fewer, rfl⟩

theorem accept?_of_is (is : t.Is text) : accept? text (t :: rest) = some ⟨t, rest, Nat.lt_succ_self _⟩ := by
  simp [accept?, is.2]

theorem accept?_of_notNext {texts : List String} (ends : NotNext texts ts) (listed : text ∈ texts) :
    accept? text ts = none := by
  cases ts with
  | nil => rfl
  | cons t ts =>
    have other : t.literal ≠ text := by
      rintro rfl
      exact notNext_cons.mp ends listed
    simp [accept?, other]

theorem yields_expect (is : t.Is text) : Yields (expect text issue (t :: rest)) t rest :=
  ⟨by simp, by simp [expect, is.2]⟩

theorem yields_identifier (isName : t.IsName) : Yields (identifier issue (t :: rest)) t.literal rest :=
  ⟨by simp, by simp [identifier, isName.1]⟩

theorem ne_of_not_mem_vocabulary (other : t.literal ∉ Lexeme.vocabulary) :
    t.literal ≠ "NIL" ∧ t.literal ≠ "TRUE" ∧ t.literal ≠ "FALSE" ∧ t.literal ≠ "(" := by
  have listed : ∀ text ∈ ["NIL", "TRUE", "FALSE", "("], text ∈ Lexeme.vocabulary := by decide
  refine ⟨?_, ?_, ?_, ?_⟩ <;> exact fun same => other (listed _ (by simp [same]))

/-- The value that a token is a literal of is read from it. -/
theorem literal?_of_denotes {value : Value} (denotes : t.Denotes value) (readable : t.Readable) :
    literal? t rest = some (.ok value) := by
  unfold literal?
  cases denotes with
  | nil word => simp [word.2]
  | true word => simp [word.2]
  | false word => simp [word.2]
  | integer kind shape =>
    have other := ne_of_not_mem_vocabulary (Lexeme.not_mem_vocabulary_of_isDigit shape.exists_isDigit)
    simp [other, kind, Numeral.read_of_integerOf shape (readable kind)]
  | decimal kind shape =>
    have other := ne_of_not_mem_vocabulary (Lexeme.not_mem_vocabulary_of_isDigit shape.exists_isDigit)
    simp [other, kind, Decimal.read?_of_decimalOf shape]
  | character kind shape =>
    have other := ne_of_not_mem_vocabulary ((Token.Denotes.character kind shape).literal_not_mem (by simp [kind]))
    simp [other, kind, unescape_inner_of_characterOf shape]
  | string kind shape =>
    have other := ne_of_not_mem_vocabulary ((Token.Denotes.string kind shape).literal_not_mem (by simp [kind]))
    simp [other, kind, unescape_inner_of_stringOf shape]

theorem literal?_of_isName (isName : t.IsName) : literal? t rest = none := by
  have other := ne_of_not_mem_vocabulary isName.literal_not_mem
  simp [literal?, other, isName.1]

/-! ## Expressions -/

theorem operator?_of_is {level : Level} {op : Operator} (listed : op ∈ level.operators)
    (is : t.Is op.symbol) : level.operator? t = some op := by
  have first : ∀ op ∈ level.operators, level.operators.find? (·.symbol == op.symbol) = some op := by
    cases level <;> decide
  rw [Level.operator?, is.2]
  exact first op listed

theorem operator?_of_notNext {level : Level} (ends : NotNext (operationTails level) (t :: rest)) :
    level.operator? t = none := by
  rw [Level.operator?, List.find?_eq_none]
  intro op listed same
  apply notNext_cons.mp ends
  rw [← eq_of_beq same]
  exact List.mem_append_left _ (List.mem_map_of_mem listed)

section

variable {level : Level} {op : Operator} {e left right receiver : Expr} {args : List Expr}
  {name point opening closing : Token}

theorem yields_operation (first : Yields (operand level ts) left rest)
    (others : Yields (operations level left rest) e rest') : Yields (operation level ts) e rest' := by
  rw [operation]
  exact first.bind fun _ => others.bind fun _ => yields_ok

theorem yields_operations_none (ends : NotNext (operationTails level) rest) :
    Yields (operations level left rest) left rest := by
  rw [operations.eq_def]
  cases rest with
  | nil => exact yields_ok
  | cons t rest =>
    simp only [operator?_of_notNext ends]
    exact yields_ok

theorem yields_operations (listed : op ∈ level.operators) (is : t.Is op.symbol)
    (first : Yields (operand level ts) right rest)
    (others : Yields (operations level (.binary op left right left.offset) rest) e rest') :
    Yields (operations level left (t :: ts)) e rest' := by
  rw [operations.eq_def]
  simp only [operator?_of_is listed is]
  exact first.bind fun _ => others.bind fun _ => yields_ok

theorem yields_secondary (first : Yields (primary ts) receiver rest)
    (others : Yields (links receiver rest) e rest') : Yields (secondary ts) e rest' := by
  rw [secondary]
  exact first.bind fun _ => others.bind fun _ => yields_ok

theorem yields_links_none {texts : List String} (ends : NotNext texts rest) (listed : "." ∈ texts) :
    Yields (links receiver rest) receiver rest := by
  rw [links, accept?_of_notNext ends listed]
  exact yields_ok

theorem yields_links_field (isPoint : point.Is ".") (isName : name.IsName) (ends : NotNext ["("] rest)
    (others : Yields (links (.field receiver name.literal receiver.offset) rest) e rest') :
    Yields (links receiver (point :: name :: rest)) e rest' := by
  rw [links, accept?_of_is isPoint]
  refine (yields_identifier isName).bind fun _ => ?_
  dsimp only
  rw [accept?_of_notNext ends List.mem_cons_self]
  exact others.bind fun _ => yields_ok

theorem yields_links_call (isPoint : point.Is ".") (isName : name.IsName) (isOpening : opening.Is "(")
    (inside : Yields (arguments ts) args rest)
    (others : Yields (links (.send receiver name.literal args receiver.offset) rest) e rest') :
    Yields (links receiver (point :: name :: opening :: ts)) e rest' := by
  rw [links, accept?_of_is isPoint]
  refine (yields_identifier isName).bind fun _ => ?_
  dsimp only
  rw [accept?_of_is isOpening]
  exact inside.bind fun _ => others.bind fun _ => yields_ok

theorem yields_arguments_none (isClosing : closing.Is ")") : Yields (arguments (closing :: rest)) [] rest := by
  rw [arguments, accept?_of_is isClosing]
  exact yields_ok

theorem yields_arguments (first : NotNext [")"] ts) (inside : Yields (argumentList ts) args rest) :
    Yields (arguments ts) args rest := by
  rw [arguments, accept?_of_notNext first List.mem_cons_self]
  exact inside

theorem yields_argumentList_last (first : Yields (operation .logical ts) e (closing :: rest))
    (isClosing : closing.Is ")") : Yields (argumentList ts) [e] rest := by
  rw [argumentList]
  refine first.bind fun _ => ?_
  dsimp only
  rw [accept?_of_is isClosing]
  exact yields_ok

theorem yields_argumentList {comma : Token} (first : Yields (operation .logical ts) e (comma :: rest))
    (isComma : comma.Is ",") (others : Yields (argumentList rest) args rest') :
    Yields (argumentList ts) (e :: args) rest' := by
  have ends : NotNext [")"] (comma :: rest) := notNext_of_is isComma (by decide) _
  rw [argumentList]
  refine first.bind fun _ => ?_
  dsimp only
  rw [accept?_of_notNext ends List.mem_cons_self]
  exact (yields_expect isComma).bind fun _ => others.bind fun _ => yields_ok

theorem yields_primary_literal {value : Value} (denotes : t.Denotes value) (readable : t.Readable) :
    Yields (primary (t :: rest)) (.literal value t.offset) rest := by
  rw [primary.eq_def]
  simp only [literal?_of_denotes denotes readable]
  exact yields_ok

theorem yields_primary_group (isOpening : opening.Is "(")
    (inside : Yields (operation .logical ts) e (closing :: rest)) (isClosing : closing.Is ")") :
    Yields (primary (opening :: ts)) (.group e opening.offset) rest := by
  have other : literal? opening ts = none := by simp [literal?, isOpening.1, isOpening.2]
  rw [primary.eq_def]
  simp only [other, isOpening.2, beq_self_eq_true, if_true]
  exact inside.bind fun _ => (yields_expect isClosing).bind fun _ => yields_ok

theorem yields_primary_name (isName : name.IsName) (ends : NotNext ["("] rest) :
    Yields (primary (name :: rest)) (.ref name.literal name.offset) rest := by
  have other := (ne_of_not_mem_vocabulary isName.literal_not_mem).2.2.2
  rw [primary.eq_def]
  simp only [literal?_of_isName isName, beq_eq_false_iff_ne.mpr other, isName.1, beq_self_eq_true, if_true,
    accept?_of_notNext ends List.mem_cons_self]
  exact yields_ok

theorem yields_primary_call (isName : name.IsName) (isOpening : opening.Is "(")
    (inside : Yields (arguments ts) args rest) :
    Yields (primary (name :: opening :: ts)) (.call name.literal args name.offset) rest := by
  have other := (ne_of_not_mem_vocabulary isName.literal_not_mem).2.2.2
  rw [primary.eq_def]
  simp only [literal?_of_isName isName, beq_eq_false_iff_ne.mpr other, isName.1, beq_self_eq_true, if_true,
    accept?_of_is isOpening]
  exact inside.bind fun _ => yields_ok

end

/-! ## Statements -/

section

variable {e target value condition iterable : Expr} {initializer : Option Expr} {type : Option String}
  {s : Stmt} {ss thenPart elsePart body : List Stmt} {stops : List String}
  {start name colon typeName equals semicolon begin stop within : Token}
  {ts₁ ts₂ ts₃ ts₄ : List Token}

theorem yields_typeClause_none (ends : NotNext [":"] rest) : Yields (typeClause rest) none rest := by
  rw [typeClause, accept?_of_notNext ends List.mem_cons_self]
  exact yields_ok

theorem yields_typeClause (isColon : colon.Is ":") (isType : typeName.IsName) :
    Yields (typeClause (colon :: typeName :: rest)) (some typeName.literal) rest := by
  rw [typeClause, accept?_of_is isColon]
  exact (yields_identifier isType).bind fun _ => yields_ok

theorem yields_valueClause_none {texts : List String} (ends : NotNext texts rest) (listed : "=" ∈ texts) :
    Yields (valueClause rest) none rest := by
  rw [valueClause, accept?_of_notNext ends listed]
  exact yields_ok

theorem yields_valueClause (isEquals : equals.Is "=") (inside : Yields (expression ts) e rest) :
    Yields (valueClause (equals :: ts)) (some e) rest := by
  rw [valueClause, accept?_of_is isEquals]
  exact inside.bind fun _ => yields_ok

theorem yields_declaration (isStart : start.Is "LET") (isName : name.IsName)
    (typed : Yields (typeClause ts) type ts₁) (valued : Yields (valueClause ts₁) initializer (semicolon :: rest))
    (isEnd : semicolon.Is ";") :
    Yields (declaration (start :: name :: ts)) (.declaration name.literal type initializer start.offset) rest := by
  rw [declaration]
  refine (yields_expect isStart).bind fun _ => (yields_identifier isName).bind fun _ => ?_
  exact typed.bind fun _ => valued.bind fun _ => (yields_expect isEnd).bind fun _ => yields_ok

theorem yields_expression (first : Yields (expression ts) e (semicolon :: rest)) (isEnd : semicolon.Is ";") :
    Yields (assignment ts) (.expression e e.offset) rest := by
  have ends : NotNext ["="] (semicolon :: rest) := notNext_of_is isEnd (by decide) _
  rw [assignment]
  refine first.bind fun _ => (yields_valueClause_none ends List.mem_cons_self).bind fun _ => ?_
  exact (yields_expect isEnd).bind fun _ => yields_ok

theorem yields_assignment (first : Yields (expression ts) target (equals :: ts₁)) (isEquals : equals.Is "=")
    (second : Yields (expression ts₁) value (semicolon :: rest)) (isEnd : semicolon.Is ";") :
    Yields (assignment ts) (.assignment target value target.offset) rest := by
  rw [assignment]
  refine first.bind fun _ => (yields_valueClause isEquals second).bind fun _ => ?_
  exact (yields_expect isEnd).bind fun _ => yields_ok

theorem yields_returning (isStart : start.Is "RETURN") (inside : Yields (expression ts) e (semicolon :: rest))
    (isEnd : semicolon.Is ";") : Yields (returning (start :: ts)) (.ret e start.offset) rest := by
  rw [returning]
  refine (yields_expect isStart).bind fun _ => inside.bind fun _ => ?_
  exact (yields_expect isEnd).bind fun _ => yields_ok

theorem yields_conditional (isStart : start.Is "IF") (tested : Yields (expression ts) condition (begin :: ts₁))
    (isDo : begin.Is "DO") (chosen : Yields (block ["ELSE", "END"] ts₁) thenPart (stop :: rest))
    (isEnd : stop.Is "END") :
    Yields (conditional (start :: ts)) (.conditional condition thenPart [] start.offset) rest := by
  have ends : NotNext ["ELSE"] (stop :: rest) := notNext_of_is isEnd (by decide) _
  rw [conditional]
  refine (yields_expect isStart).bind fun _ => tested.bind fun _ => (yields_expect isDo).bind fun _ => ?_
  refine chosen.bind fun _ => ?_
  dsimp only
  rw [accept?_of_notNext ends List.mem_cons_self]
  exact (yields_expect isEnd).bind fun _ => yields_ok

theorem yields_conditional_else {word : Token} (isStart : start.Is "IF")
    (tested : Yields (expression ts) condition (begin :: ts₁)) (isDo : begin.Is "DO")
    (chosen : Yields (block ["ELSE", "END"] ts₁) thenPart (word :: ts₂)) (isWord : word.Is "ELSE")
    (other : Yields (block ["END"] ts₂) elsePart (stop :: rest)) (isEnd : stop.Is "END") :
    Yields (conditional (start :: ts)) (.conditional condition thenPart elsePart start.offset) rest := by
  rw [conditional]
  refine (yields_expect isStart).bind fun _ => tested.bind fun _ => (yields_expect isDo).bind fun _ => ?_
  refine chosen.bind fun _ => ?_
  dsimp only
  rw [accept?_of_is isWord]
  exact other.bind fun _ => (yields_expect isEnd).bind fun _ => yields_ok

theorem yields_forEach (isStart : start.Is "FOR") (isName : name.IsName) (isIn : within.Is "IN")
    (iterates : Yields (expression ts) iterable (begin :: ts₁)) (isDo : begin.Is "DO")
    (inside : Yields (block ["END"] ts₁) body (stop :: rest)) (isEnd : stop.Is "END") :
    Yields (forEach (start :: name :: within :: ts)) (.forEach name.literal iterable body start.offset) rest := by
  rw [forEach]
  refine (yields_expect isStart).bind fun _ => (yields_identifier isName).bind fun _ => ?_
  refine (yields_expect isIn).bind fun _ => iterates.bind fun _ => (yields_expect isDo).bind fun _ => ?_
  exact inside.bind fun _ => (yields_expect isEnd).bind fun _ => yields_ok

theorem yields_whileLoop (isStart : start.Is "WHILE")
    (tested : Yields (expression ts) condition (begin :: ts₁)) (isDo : begin.Is "DO")
    (inside : Yields (block ["END"] ts₁) body (stop :: rest)) (isEnd : stop.Is "END") :
    Yields (whileLoop (start :: ts)) (.whileLoop condition body start.offset) rest := by
  rw [whileLoop]
  refine (yields_expect isStart).bind fun _ => tested.bind fun _ => (yields_expect isDo).bind fun _ => ?_
  exact inside.bind fun _ => (yields_expect isEnd).bind fun _ => yields_ok

/-- A statement that no word opens is an assignment or an expression. -/
theorem statement_of_notNext (first : NotNext notFirst ts) : statement ts = assignment ts := by
  rw [statement.eq_def]
  cases ts with
  | nil => rfl
  | cons t ts =>
    have other := notNext_cons.mp first
    split
    all_goals first
      | rfl
      | next word =>
        exact absurd (show t.literal ∈ notFirst by simp [show t.literal = _ from word, notFirst]) other

theorem statement_cons :
    statement (t :: ts) =
      match t.literal with
      | "LET" => declaration (t :: ts)
      | "IF" => conditional (t :: ts)
      | "FOR" => forEach (t :: ts)
      | "WHILE" => whileLoop (t :: ts)
      | "RETURN" => returning (t :: ts)
      | _ => assignment (t :: ts) := by
  rw [statement.eq_def]
  rfl

theorem yields_block_none (next : Next stops rest) : Yields (block stops rest) [] rest := by
  obtain ⟨t, rest, rfl, listed⟩ := next
  rw [block.eq_def]
  simp only [listed, if_true]
  exact yields_ok

theorem yields_block (nonempty : ts ≠ []) (opens : NotNext stops ts) (first : Yields (statement ts) s rest)
    (others : Yields (block stops rest) ss rest') : Yields (block stops ts) (s :: ss) rest' := by
  cases ts with
  | nil => exact absurd rfl nonempty
  | cons t ts =>
    rw [block.eq_def]
    simp only [notNext_cons.mp opens, if_false]
    exact first.bind fun _ => others.bind fun _ => yields_ok

end

/-! ## Programs -/

section

variable {initializer : Option Expr} {result : Option String} {ps : List Param} {body : List Stmt}
  {f : Field} {m : Method} {ms : List Method} {s : Source}
  {start name colon typeName comma semicolon opening closing begin stop : Token} {ts₁ ts₂ ts₃ : List Token}

theorem yields_field (isStart : start.Is "LET") (isName : name.IsName) (isColon : colon.Is ":")
    (isType : typeName.IsName) (valued : Yields (valueClause ts) initializer (semicolon :: rest))
    (isEnd : semicolon.Is ";") :
    Yields (field (start :: name :: colon :: typeName :: ts))
      { name := name.literal, typeName := typeName.literal, initializer, offset := start.offset } rest := by
  rw [field]
  refine (yields_expect isStart).bind fun _ => (yields_identifier isName).bind fun _ => ?_
  refine (yields_expect isColon).bind fun _ => (yields_identifier isType).bind fun _ => ?_
  exact valued.bind fun _ => (yields_expect isEnd).bind fun _ => yields_ok

theorem yields_paramList_last (isName : name.IsName) (isColon : colon.Is ":") (isType : typeName.IsName)
    (ends : NotNext [","] rest) :
    Yields (paramList (name :: colon :: typeName :: rest))
      [{ name := name.literal, typeName := typeName.literal }] rest := by
  rw [paramList]
  refine (yields_identifier isName).bind fun _ => (yields_expect isColon).bind fun _ => ?_
  refine (yields_identifier isType).bind fun _ => ?_
  dsimp only
  rw [accept?_of_notNext ends List.mem_cons_self]
  exact yields_ok

theorem yields_paramList (isName : name.IsName) (isColon : colon.Is ":") (isType : typeName.IsName)
    (isComma : comma.Is ",") (others : Yields (paramList ts) ps rest) :
    Yields (paramList (name :: colon :: typeName :: comma :: ts))
      ({ name := name.literal, typeName := typeName.literal } :: ps) rest := by
  rw [paramList]
  refine (yields_identifier isName).bind fun _ => (yields_expect isColon).bind fun _ => ?_
  refine (yields_identifier isType).bind fun _ => ?_
  dsimp only
  rw [accept?_of_is isComma]
  exact others.bind fun _ => yields_ok

theorem yields_params_none (next : Next [")"] rest) : Yields (params rest) [] rest := by
  obtain ⟨t, rest, rfl, listed⟩ := next
  have closing : t.literal = ")" := List.mem_singleton.mp listed
  simp only [params, accept?, closing, beq_self_eq_true, if_true]
  exact yields_ok

theorem yields_params (first : NotNext [")"] ts) (inside : Yields (paramList ts) ps rest) :
    Yields (params ts) ps rest := by
  rw [params, accept?_of_notNext first List.mem_cons_self]
  exact inside.bind fun _ => yields_ok

theorem yields_method (isStart : start.Is "DEF") (isName : name.IsName) (isOpening : opening.Is "(")
    (taken : Yields (params ts) ps (closing :: ts₁)) (isClosing : closing.Is ")")
    (typed : Yields (typeClause ts₁) result (begin :: ts₂)) (isDo : begin.Is "DO")
    (inside : Yields (block ["END"] ts₂) body (stop :: rest)) (isEnd : stop.Is "END") :
    Yields (method (start :: name :: opening :: ts))
      { name := name.literal, params := ps, resultTypeName := result, body, offset := start.offset } rest := by
  rw [method]
  refine (yields_expect isStart).bind fun _ => (yields_identifier isName).bind fun _ => ?_
  refine (yields_expect isOpening).bind fun _ => taken.bind fun _ => (yields_expect isClosing).bind fun _ => ?_
  refine typed.bind fun _ => (yields_expect isDo).bind fun _ => inside.bind fun _ => ?_
  exact (yields_expect isEnd).bind fun _ => yields_ok

theorem methods_of_method (opens : Next ["DEF"] ts) (first : Yields (method ts) m rest)
    (others : methods rest = .ok ms) : methods ts = .ok (m :: ms) := by
  obtain ⟨t, more, rfl, listed⟩ := opens
  obtain ⟨fewer, read⟩ := first
  have word : t.literal = "DEF" := List.mem_singleton.mp listed
  rw [methods.eq_def]
  simp [word, read, others]

theorem source_of_methods (opens : NotNext ["LET"] ts) (read : methods ts = .ok ms) :
    source ts = .ok { fields := [], methods := ms } := by
  rw [source.eq_def]
  cases ts with
  | nil =>
    rw [methods.eq_def] at read
    cases read
    rfl
  | cons t ts =>
    have other : t.literal ≠ "LET" := fun same => notNext_cons.mp opens (by simp [same])
    simp [other, read]

theorem source_of_field (opens : Next ["LET"] ts) (first : Yields (field ts) f rest)
    (others : source rest = .ok s) : source ts = .ok { s with fields := f :: s.fields } := by
  obtain ⟨t, more, rfl, listed⟩ := opens
  obtain ⟨fewer, read⟩ := first
  have word : t.literal = "LET" := List.mem_singleton.mp listed
  rw [source.eq_def]
  simp [word, read, others]

end

end Reading

namespace Grammar

open Reading

/-! ## All symbols at once -/

/-- What reading a phrase of a symbol comes to when the phrase has this tree and these tokens follow. -/
def Symbol.Reads : (symbol : Symbol) → List Token → symbol.Tree → List Token → Prop
  | source, ts, s, _ => Reading.source ts = .ok s
  | fields, ts, fs, rest =>
    ∀ s, Reading.source rest = .ok s → Reading.source ts = .ok { s with fields := fs ++ s.fields }
  | field, ts, f, rest => Yields (Reading.field ts) f rest
  | methods, ts, ms, _ => Reading.methods ts = .ok ms
  | method, ts, m, rest => Yields (Reading.method ts) m rest
  | params, ts, ps, rest => Yields (Reading.params ts) ps rest
  | paramList, ts, ps, rest => Yields (Reading.paramList ts) ps rest
  | typeClause, ts, type, rest => Yields (Reading.typeClause ts) type rest
  | valueClause, ts, value, rest => Yields (Reading.valueClause ts) value rest
  | statements, ts, ss, rest =>
    ∀ stops, stops ⊆ ["ELSE", "END"] → Next stops rest → Yields (block stops ts) ss rest
  | statement, ts, s, rest => Yields (Reading.statement ts) s rest
  -- the alternative is read by the rule of the whole conditional
  | elseClause, ts, ss, rest =>
    (ts = rest ∧ ss = []) ∨
      ∃ word inside, ts = word :: inside ∧ word.Is "ELSE" ∧ Yields (block ["END"] inside) ss rest
  | operation level, ts, e, rest => Yields (Reading.operation level ts) e rest
  | operand level, ts, e, rest => Yields (Reading.operand level ts) e rest
  | operations level, ts, pairs, rest =>
    ∀ left, Yields (Reading.operations level left ts) (grouped left.offset left pairs) rest
  | secondary, ts, e, rest => Yields (Reading.secondary ts) e rest
  | links, ts, members, rest =>
    ∀ receiver, Yields (Reading.links receiver ts) (chain receiver.offset receiver members) rest
  | primary, ts, e, rest => Yields (Reading.primary ts) e rest
  -- the reader of arguments takes the closing parenthesis with them
  | arguments, ts, args, rest =>
    ∀ closing more, rest = closing :: more → closing.Is ")" → Yields (Reading.arguments ts) args more
  | argumentList, ts, args, rest =>
    ∀ closing more, rest = closing :: more → closing.Is ")" → Yields (Reading.argumentList ts) args more

theorem operandTails_subset (level : Level) : operandTails level ⊆ operationTails level :=
  List.subset_append_right _ _

/-- No operator of a level goes on with an operand of it. -/
theorem symbol_not_mem_operandTails (level : Level) :
    ∀ text ∈ level.operators.map Operator.symbol, text ∉ operandTails level := by
  cases level <;> decide

theorem Derives.reads {symbol : Symbol} {us : List Token} {tree : symbol.Tree}
    (derived : Derives symbol us tree) (readable : ∀ t ∈ us, t.Readable) (rest : List Token)
    (ends : symbol.Ends rest) : symbol.Reads (us ++ rest) tree rest := by
  have callTail : ["("] ⊆ [".", "("] := by decide
  induction derived generalizing rest with
  | source fields methods ihFields ihMethods =>
    rw [List.append_assoc]
    have read := ihMethods (fun t mem => readable t (by simp [mem])) rest ends
    have opens : NotNext ["LET"] (_ ++ rest) :=
      (ends.symm ▸ notNext_nil _ : NotNext ["LET"] rest).of_optional methods.opens (by decide)
    have all := ihFields (fun t mem => readable t (by simp [mem])) _ trivial _ (source_of_methods opens read)
    rw [List.append_nil] at all
    exact all
  | noFields => exact fun s read => read
  | fields first others ihFirst ihOthers =>
    simp only [List.append_assoc]
    intro s read
    have later := ihOthers (fun t mem => readable t (by simp [mem])) rest trivial s read
    exact source_of_field (first.opens.append _)
      (ihFirst (fun t mem => readable t (by simp [mem])) _ trivial) later
  | noMethods =>
    obtain rfl := ends
    change Reading.methods [] = _
    rw [Reading.methods.eq_def]
  | methods first others ihFirst ihOthers =>
    simp only [List.append_assoc]
    have later := ihOthers (fun t mem => readable t (by simp [mem])) rest ends
    exact methods_of_method (first.opens.append _)
      (ihFirst (fun t mem => readable t (by simp [mem])) _ trivial) later
  | field isStart isName isColon isType clause isEnd ih =>
    simp only [List.append_assoc, List.cons_append, List.nil_append]
    have valued := ih (fun t mem => readable t (by simp [mem])) _ (notNext_of_is isEnd (by decide) rest)
    exact yields_field isStart isName isColon isType valued isEnd
  | method isStart isName isOpening params isClosing clause isDo statements isEnd ihParams ihClause ihBody =>
    simp only [List.append_assoc, List.cons_append, List.nil_append]
    have taken := ihParams fun t mem => readable t (by simp [mem])
    have typed := ihClause fun t mem => readable t (by simp [mem])
    have inside := ihBody fun t mem => readable t (by simp [mem])
    exact yields_method isStart isName isOpening (taken _ (next_of_is isClosing (by simp) _)) isClosing
      (typed _ (notNext_of_is isDo (by decide) _)) isDo
      (inside _ trivial ["END"] (by simp) (next_of_is isEnd (by simp) rest)) isEnd
  | noParams => exact yields_params_none ends
  | params some ih =>
    have inside := ih readable rest (ends.notNext (by decide))
    exact yields_params (some.opens.2.append some.opens.1 _) inside
  | lastParam isName isColon isType => exact yields_paramList_last isName isColon isType ends
  | param isName isColon isType isComma others ih =>
    have later := ih (fun t mem => readable t (by simp [mem])) rest ends
    exact yields_paramList isName isColon isType isComma later
  | noType => exact yields_typeClause_none ends
  | type isColon isType => exact yields_typeClause isColon isType
  | noValue => exact yields_valueClause_none ends List.mem_cons_self
  | value isEquals expression ih =>
    have inside := ih (fun t mem => readable t (by simp [mem])) rest (ends.mono (List.subset_cons_self _ _))
    exact yields_valueClause isEquals inside
  | noStatements => exact fun stops within next => yields_block_none next
  | statements first others ihFirst ihOthers =>
    simp only [List.append_assoc]
    intro stops within next
    have later := ihOthers (fun t mem => readable t (by simp [mem])) rest trivial stops within next
    exact yields_block (by simp [first.opens.1]) ((first.opens.2.mono within).append first.opens.1 _)
      (ihFirst (fun t mem => readable t (by simp [mem])) _ trivial) later
  | declaration isStart isName typeClause valueClause isEnd ihType ihValue =>
    simp only [List.append_assoc, List.cons_append, List.nil_append]
    have between := (notNext_of_is isEnd (by decide) rest : NotNext [":"] _).of_optional valueClause.opens
      (by decide)
    have valued := ihValue (fun t mem => readable t (by simp [mem])) _ (notNext_of_is isEnd (by decide) rest)
    change Yields (Reading.statement _) _ _
    simp only [statement_cons, isStart.2]
    exact yields_declaration isStart isName (ihType (fun t mem => readable t (by simp [mem])) _ between) valued
      isEnd
  | conditional isStart expression isDo thenStatements elseClause isEnd ihTest ihThen ihElse =>
    simp only [List.append_assoc, List.cons_append, List.nil_append]
    have tested := ihTest fun t mem => readable t (by simp [mem])
    have chosen := ihThen fun t mem => readable t (by simp [mem])
    have other := ihElse (fun t mem => readable t (by simp [mem])) _ (next_of_is isEnd (by simp) rest)
    change Yields (Reading.statement _) _ _
    simp only [statement_cons, isStart.2]
    rcases other with ⟨same, rfl⟩ | ⟨word, inside, opened, isWord, other⟩
    · rw [same]
      exact yields_conditional isStart (tested _ (notNext_of_is isDo (by decide) _)) isDo
        (chosen _ trivial ["ELSE", "END"] (by simp) (next_of_is isEnd (by simp) rest)) isEnd
    · rw [opened]
      exact yields_conditional_else isStart (tested _ (notNext_of_is isDo (by decide) _)) isDo
        (chosen _ trivial ["ELSE", "END"] (by simp) (next_of_is isWord (by simp) _)) isWord other isEnd
  | noElse => exact .inl ⟨rfl, rfl⟩
  | elseClause isWord statements ih =>
    have inside := ih (fun t mem => readable t (by simp [mem])) rest trivial ["END"] (by simp) ends
    exact .inr ⟨_, _, rfl, isWord, inside⟩
  | forEach isStart isName isIn expression isDo statements isEnd ihOver ihBody =>
    simp only [List.append_assoc, List.cons_append, List.nil_append]
    have iterates := ihOver fun t mem => readable t (by simp [mem])
    have inside := ihBody (fun t mem => readable t (by simp [mem])) _ trivial ["END"] (by simp)
      (next_of_is isEnd (by simp) rest)
    change Yields (Reading.statement _) _ _
    simp only [statement_cons, isStart.2]
    exact yields_forEach isStart isName isIn (iterates _ (notNext_of_is isDo (by decide) _)) isDo inside isEnd
  | whileLoop isStart expression isDo statements isEnd ihTest ihBody =>
    simp only [List.append_assoc, List.cons_append, List.nil_append]
    have tested := ihTest fun t mem => readable t (by simp [mem])
    have inside := ihBody (fun t mem => readable t (by simp [mem])) _ trivial ["END"] (by simp)
      (next_of_is isEnd (by simp) rest)
    change Yields (Reading.statement _) _ _
    simp only [statement_cons, isStart.2]
    exact yields_whileLoop isStart (tested _ (notNext_of_is isDo (by decide) _)) isDo inside isEnd
  | returning isStart expression isEnd ih =>
    simp only [List.append_assoc, List.cons_append, List.nil_append]
    have inside := ih (fun t mem => readable t (by simp [mem])) _ (notNext_of_is isEnd (by decide) rest)
    change Yields (Reading.statement _) _ _
    simp only [statement_cons, isStart.2]
    exact yields_returning isStart inside isEnd
  | expression expression isEnd ih =>
    simp only [List.append_assoc, List.cons_append, List.nil_append]
    have inside := ih (fun t mem => readable t (by simp [mem])) _ (notNext_of_is isEnd (by decide) rest)
    change Yields (Reading.statement _) _ _
    rw [statement_of_notNext (expression.opens.2.append expression.opens.1 _), ← expression.begins.2]
    exact yields_expression inside isEnd
  | assignment left isEquals right isEnd ihLeft ihRight =>
    simp only [List.append_assoc, List.cons_append, List.nil_append]
    have target := ihLeft fun t mem => readable t (by simp [mem])
    have value := ihRight (fun t mem => readable t (by simp [mem])) _ (notNext_of_is isEnd (by decide) rest)
    change Yields (Reading.statement _) _ _
    rw [statement_of_notNext (left.opens.2.append left.opens.1 _), ← left.begins.2]
    exact yields_assignment (target _ (notNext_of_is isEquals (by decide) _)) isEquals value isEnd
  | operation first others ihFirst ihOthers =>
    have between := (ends.mono (operandTails_subset _)).of_optional others.opens (symbol_not_mem_operandTails _)
    rw [List.append_assoc, ← first.begins.2]
    exact yields_operation (ihFirst (fun t mem => readable t (by simp [mem])) _ between)
      (ihOthers (fun t mem => readable t (by simp [mem])) rest ends _)
  | noOperations => exact fun left => yields_operations_none ends
  | operations listed isSymbol right others ihRight ihOthers =>
    have between := (ends.mono (operandTails_subset _)).of_optional others.opens (symbol_not_mem_operandTails _)
    simp only [List.append_assoc, List.cons_append, List.nil_append]
    intro left
    exact yields_operations listed isSymbol
      (ihRight (fun t mem => readable t (by simp [mem])) _ between)
      (ihOthers (fun t mem => readable t (by simp [mem])) rest ends _)
  | comparison _ ih =>
    have read := ih readable rest ends
    change Yields (operand _ _) _ _
    rw [operand]
    exact read
  | additive _ ih =>
    have read := ih readable rest ends
    change Yields (operand _ _) _ _
    rw [operand]
    exact read
  | multiplicative _ ih =>
    have read := ih readable rest ends
    change Yields (operand _ _) _ _
    rw [operand]
    exact read
  | factor _ ih =>
    have read := ih readable rest ends
    change Yields (operand _ _) _ _
    rw [operand]
    exact read
  | secondary first others ihFirst ihOthers =>
    have between := (ends.mono callTail).of_optional others.opens (by decide)
    rw [List.append_assoc, ← first.begins.2]
    exact yields_secondary (ihFirst (fun t mem => readable t (by simp [mem])) _ between)
      (ihOthers (fun t mem => readable t (by simp [mem])) rest ends _)
  | noLinks => exact fun receiver => yields_links_none ends List.mem_cons_self
  | fieldLink isPoint isName others ih =>
    have between := (ends.mono callTail).of_optional others.opens (by decide)
    exact fun receiver => yields_links_field isPoint isName between
      (ih (fun t mem => readable t (by simp [mem])) rest ends _)
  | callLink isPoint isName isOpening arguments isClosing others ihArguments ihOthers =>
    simp only [List.append_assoc, List.cons_append, List.nil_append]
    intro receiver
    have inside := ihArguments fun t mem => readable t (by simp [mem])
    exact yields_links_call isPoint isName isOpening
      (inside _ (next_of_is isClosing (by simp) _) _ _ rfl isClosing)
      (ihOthers (fun t mem => readable t (by simp [mem])) rest ends _)
  | noArguments =>
    rintro closing more rfl isClosing
    exact yields_arguments_none isClosing
  | arguments some ih =>
    rintro closing more rfl isClosing
    have listed : [")"] ⊆ notFirst := by decide
    exact yields_arguments ((some.opens.2.mono listed).append some.opens.1 _)
      (ih readable _ ends closing more rfl isClosing)
  | lastArgument _ ih =>
    rintro closing more rfl isClosing
    exact yields_argumentList_last (ih readable _ (notNext_of_is isClosing (by decide) _)) isClosing
  | argument _ isComma _ ihFirst ihOthers =>
    simp only [List.append_assoc, List.cons_append, List.nil_append]
    rintro closing more rfl isClosing
    have first := ihFirst fun t mem => readable t (by simp [mem])
    exact yields_argumentList (first _ (notNext_of_is isComma (by decide) _)) isComma
      (ihOthers (fun t mem => readable t (by simp [mem])) _ ends closing more rfl isClosing)
  | literal denotes => exact yields_primary_literal denotes (readable _ (by simp))
  | group isOpening _ isClosing ih =>
    simp only [List.append_assoc, List.cons_append, List.nil_append]
    have inside := ih (fun t mem => readable t (by simp [mem])) _ (notNext_of_is isClosing (by decide) rest)
    exact yields_primary_group isOpening inside isClosing
  | name isName => exact yields_primary_name isName ends
  | call isName isOpening _ isClosing ih =>
    simp only [List.append_assoc, List.cons_append, List.nil_append]
    have inside := ih (fun t mem => readable t (by simp [mem])) _ (next_of_is isClosing (by simp) rest) _ _ rfl
      isClosing
    exact yields_primary_call isName isOpening inside

/-- Tokens derived as a program are read as the tree of the derivation. -/
theorem source_complete {ts : List Token} {s : Source} (readable : ∀ t ∈ ts, t.Readable)
    (derived : Derives .source ts s) : Reading.source ts = .ok s := by
  have read := derived.reads readable [] rfl
  rw [List.append_nil] at read
  exact read

theorem parseSource_eq_ok_iff {tokens : List Token} {s : Source} :
    parseSource tokens = .ok s ↔ Reading.source tokens = .ok s := by
  unfold parseSource
  cases Reading.source tokens with
  | error failure => simp [Except.mapError]
  | ok read => simp [Except.mapError]

/-- The program that is read from a text is derived from its tokens. -/
theorem derives_of_parseText {text : List Char} {s : Source} (read : parseText text = .ok s) :
    ∃ tokens, lex text = .ok tokens ∧ Derives .source tokens s := by
  unfold parseText at read
  split at read
  next => cases read
  next tokens lexed => exact ⟨tokens, lexed, source_sound (lex_wellFormed lexed) (parseSource_eq_ok_iff.mp read)⟩

/-- A token that denotes a value is read as the literal of that value, whatever stands behind it. -/
theorem parse_primary_of_denotes {t : Token} {value : Value} (denotes : t.Denotes value) (readable : t.Readable)
    (rest : List Token) : Rule.primary.parse (t :: rest) = .ok (.expr (.literal value t.offset), 1) := by
  obtain ⟨fewer, read⟩ : Reading.Yields (Reading.primary (t :: rest)) (.literal value t.offset) rest :=
    Reading.yields_primary_literal denotes readable
  have one : (t :: rest).length - rest.length = 1 := Nat.add_sub_cancel_left rest.length 1
  rw [Rule.parse, Rule.read, read, Rule.counted]
  simp only [Except.map, Except.mapError, one]

/-! ## The language that is read -/

/-- The programs read from the tokens of a text are the trees of their derivations, and there is at most
one. -/
theorem parseSource_eq_ok_iff_derives {text : List Char} {tokens : List Token} (lexed : lex text = .ok tokens)
    (readable : ∀ t ∈ tokens, t.Readable) :
    (∀ s, parseSource tokens = .ok s ↔ Derives .source tokens s) ∧
      ∀ s s', Derives .source tokens s → Derives .source tokens s' → s = s' := by
  constructor
  · intro s
    rw [parseSource_eq_ok_iff]
    exact ⟨source_sound (lex_wellFormed lexed), source_complete readable⟩
  · intro s s' first second
    have read := source_complete readable first
    rw [source_complete readable second] at read
    exact (Except.ok.inj read).symm

/-- Subtractions group to the left, each at the offset of the first operand. -/
theorem derives_subtractions :
    ∃ tokens, lex "DEF f() DO RETURN 1 - 2 - 3; END".toList = .ok tokens ∧ (∀ t ∈ tokens, t.Readable) ∧
      Derives .source tokens
        { fields := []
          methods := [{
            name := "f", params := [], resultTypeName := none, offset := 0
            body := [.ret (.binary .sub (.binary .sub (.literal (.int 1) 18) (.literal (.int 2) 22) 18)
              (.literal (.int 3) 26) 18) 11] }] } := by
  let tokens : List Token := [⟨.operator, "DEF", 0⟩, ⟨.identifier, "f", 4⟩, ⟨.operator, "(", 5⟩,
    ⟨.operator, ")", 6⟩, ⟨.operator, "DO", 8⟩, ⟨.operator, "RETURN", 11⟩, ⟨.integer, "1", 18⟩,
    ⟨.operator, "-", 20⟩, ⟨.integer, "2", 22⟩, ⟨.operator, "-", 24⟩, ⟨.integer, "3", 26⟩,
    ⟨.operator, ";", 27⟩, ⟨.operator, "END", 29⟩]
  have lexed : lex "DEF f() DO RETURN 1 - 2 - 3; END".toList = .ok tokens := by decide +kernel
  have readable : ∀ t ∈ tokens, t.Readable := by
    unfold Token.Readable
    decide
  exact ⟨tokens, lexed, readable, ((parseSource_eq_ok_iff_derives lexed readable).1 _).mp (by cbv)⟩

end Grammar

end Primer
