import Primer.Proofs.Grammar.Viable
import Primer.Proofs.Token.Order

/-!
# A text is refused at its first offence

**The law** (`refused_at_first_offence`): when the tokens of a text are refused, the offset of the error is
that of a token or the end of the last one. In the first case the tokens before that one begin a program,
and with it they begin none. In the second case all tokens together begin a program and are none.

That the tokens before can be completed is `Reading.source_viable`. That the token itself cannot be taken
by any derivation is completeness together with `Reading.source_tracks`: a program that began with these
tokens would be read, but its reading is refused at that token, because it looks no further.

Completeness is about programs whose integers can all be read, so what stands behind the token is first
made short (`Token.shortened`), which leaves a program a program.
-/

namespace Primer

namespace Grammar

/-- That tokens are the first ones of a program. -/
def BeginProgram (ts : List Token) : Prop :=
  ∃ more s, Derives .source (ts ++ more) s

/-! ## Programs with other tokens -/

/-- What a change of tokens has to keep for phrases to stay phrases. -/
structure Keeps (change : Token → Token) : Prop where
  word : ∀ {t : Token} {text : String}, t.Is text → (change t).Is text
  name : ∀ {t : Token}, t.IsName → (change t).IsName
  literal : ∀ {t : Token} {value : Value}, t.Denotes value → ∃ value', (change t).Denotes value'

theorem Derives.map {change : Token → Token} (keeps : Keeps change) {symbol : Symbol} {us : List Token}
    {tree : symbol.Tree} (derived : Derives symbol us tree) : ∃ tree', Derives symbol (us.map change) tree' := by
  induction derived with
  | source _ _ ih ih' =>
    obtain ⟨fs, fields⟩ := ih
    obtain ⟨ms, methods⟩ := ih'
    rw [List.map_append]
    exact ⟨_, .source fields methods⟩
  | noFields => exact ⟨_, .noFields⟩
  | fields _ _ ih ih' =>
    obtain ⟨f, first⟩ := ih
    obtain ⟨fs, others⟩ := ih'
    rw [List.map_append]
    exact ⟨_, .fields first others⟩
  | noMethods => exact ⟨_, .noMethods⟩
  | methods _ _ ih ih' =>
    obtain ⟨m, first⟩ := ih
    obtain ⟨ms, others⟩ := ih'
    rw [List.map_append]
    exact ⟨_, .methods first others⟩
  | field isStart isName isColon isType _ isEnd ih =>
    obtain ⟨value, clause⟩ := ih
    simp only [List.map_append, List.map_cons, List.map_nil]
    exact ⟨_, .field (keeps.word isStart) (keeps.name isName) (keeps.word isColon) (keeps.name isType) clause
      (keeps.word isEnd)⟩
  | method isStart isName isOpening _ isClosing _ isDo _ isEnd params clause statements =>
    obtain ⟨ps, params⟩ := params
    obtain ⟨result, clause⟩ := clause
    obtain ⟨body, statements⟩ := statements
    simp only [List.map_append, List.map_cons, List.map_nil]
    exact ⟨_, .method (keeps.word isStart) (keeps.name isName) (keeps.word isOpening) params
      (keeps.word isClosing) clause (keeps.word isDo) statements (keeps.word isEnd)⟩
  | noParams => exact ⟨_, .noParams⟩
  | params _ ih =>
    obtain ⟨ps, params⟩ := ih
    exact ⟨_, .params params⟩
  | lastParam isName isColon isType =>
    exact ⟨_, .lastParam (keeps.name isName) (keeps.word isColon) (keeps.name isType)⟩
  | param isName isColon isType isComma _ ih =>
    obtain ⟨ps, others⟩ := ih
    simp only [List.map_append, List.map_cons, List.map_nil]
    exact ⟨_, .param (keeps.name isName) (keeps.word isColon) (keeps.name isType) (keeps.word isComma) others⟩
  | noType => exact ⟨_, .noType⟩
  | type isColon isType => exact ⟨_, .type (keeps.word isColon) (keeps.name isType)⟩
  | noValue => exact ⟨_, .noValue⟩
  | value isEquals _ ih =>
    obtain ⟨e, expression⟩ := ih
    exact ⟨_, .value (keeps.word isEquals) expression⟩
  | noStatements => exact ⟨_, .noStatements⟩
  | statements _ _ ih ih' =>
    obtain ⟨s, first⟩ := ih
    obtain ⟨ss, others⟩ := ih'
    rw [List.map_append]
    exact ⟨_, .statements first others⟩
  | declaration isStart isName _ _ isEnd ih ih' =>
    obtain ⟨type, typeClause⟩ := ih
    obtain ⟨value, valueClause⟩ := ih'
    simp only [List.map_append, List.map_cons, List.map_nil]
    exact ⟨_, .declaration (keeps.word isStart) (keeps.name isName) typeClause valueClause (keeps.word isEnd)⟩
  | conditional isStart _ isDo _ _ isEnd condition thenPart elsePart =>
    obtain ⟨e, expression⟩ := condition
    obtain ⟨ss, statements⟩ := thenPart
    obtain ⟨ss', clause⟩ := elsePart
    simp only [List.map_append, List.map_cons, List.map_nil]
    exact ⟨_, .conditional (keeps.word isStart) expression (keeps.word isDo) statements clause (keeps.word isEnd)⟩
  | noElse => exact ⟨_, .noElse⟩
  | elseClause isWord _ ih =>
    obtain ⟨ss, statements⟩ := ih
    exact ⟨_, .elseClause (keeps.word isWord) statements⟩
  | forEach isStart isName isIn _ isDo _ isEnd ih ih' =>
    obtain ⟨e, expression⟩ := ih
    obtain ⟨ss, statements⟩ := ih'
    simp only [List.map_append, List.map_cons, List.map_nil]
    exact ⟨_, .forEach (keeps.word isStart) (keeps.name isName) (keeps.word isIn) expression (keeps.word isDo)
      statements (keeps.word isEnd)⟩
  | whileLoop isStart _ isDo _ isEnd ih ih' =>
    obtain ⟨e, expression⟩ := ih
    obtain ⟨ss, statements⟩ := ih'
    simp only [List.map_append, List.map_cons, List.map_nil]
    exact ⟨_, .whileLoop (keeps.word isStart) expression (keeps.word isDo) statements (keeps.word isEnd)⟩
  | returning isStart _ isEnd ih =>
    obtain ⟨e, expression⟩ := ih
    simp only [List.map_append, List.map_cons, List.map_nil]
    exact ⟨_, .returning (keeps.word isStart) expression (keeps.word isEnd)⟩
  | expression _ isEnd ih =>
    obtain ⟨e, expression⟩ := ih
    simp only [List.map_append, List.map_cons, List.map_nil]
    exact ⟨_, .expression expression (keeps.word isEnd)⟩
  | assignment _ isEquals _ isEnd ih ih' =>
    obtain ⟨target, left⟩ := ih
    obtain ⟨value, right⟩ := ih'
    simp only [List.map_append, List.map_cons, List.map_nil]
    exact ⟨_, .assignment left (keeps.word isEquals) right (keeps.word isEnd)⟩
  | operation _ _ ih ih' =>
    obtain ⟨e, first⟩ := ih
    obtain ⟨operations, others⟩ := ih'
    rw [List.map_append]
    exact ⟨_, .operation first others⟩
  | noOperations => exact ⟨_, .noOperations⟩
  | operations listed isSymbol _ _ ih ih' =>
    obtain ⟨e, right⟩ := ih
    obtain ⟨operations, others⟩ := ih'
    simp only [List.map_append, List.map_cons, List.map_nil]
    exact ⟨_, .operations listed (keeps.word isSymbol) right others⟩
  | comparison _ ih =>
    obtain ⟨e, operation⟩ := ih
    exact ⟨_, .comparison operation⟩
  | additive _ ih =>
    obtain ⟨e, operation⟩ := ih
    exact ⟨_, .additive operation⟩
  | multiplicative _ ih =>
    obtain ⟨e, operation⟩ := ih
    exact ⟨_, .multiplicative operation⟩
  | factor _ ih =>
    obtain ⟨e, secondary⟩ := ih
    exact ⟨_, .factor secondary⟩
  | secondary _ _ ih ih' =>
    obtain ⟨e, first⟩ := ih
    obtain ⟨links, others⟩ := ih'
    rw [List.map_append]
    exact ⟨_, .secondary first others⟩
  | noLinks => exact ⟨_, .noLinks⟩
  | fieldLink isPoint isName _ ih =>
    obtain ⟨links, others⟩ := ih
    exact ⟨_, .fieldLink (keeps.word isPoint) (keeps.name isName) others⟩
  | callLink isPoint isName isOpening _ isClosing _ ih ih' =>
    obtain ⟨args, arguments⟩ := ih
    obtain ⟨links, others⟩ := ih'
    simp only [List.map_append, List.map_cons, List.map_nil]
    exact ⟨_, .callLink (keeps.word isPoint) (keeps.name isName) (keeps.word isOpening) arguments
      (keeps.word isClosing) others⟩
  | noArguments => exact ⟨_, .noArguments⟩
  | arguments _ ih =>
    obtain ⟨args, arguments⟩ := ih
    exact ⟨_, .arguments arguments⟩
  | lastArgument _ ih =>
    obtain ⟨e, expression⟩ := ih
    exact ⟨_, .lastArgument expression⟩
  | argument _ isComma _ ih ih' =>
    obtain ⟨e, expression⟩ := ih
    obtain ⟨args, others⟩ := ih'
    simp only [List.map_append, List.map_cons, List.map_nil]
    exact ⟨_, .argument expression (keeps.word isComma) others⟩
  | literal denotes =>
    obtain ⟨value, denotes⟩ := keeps.literal denotes
    exact ⟨_, .literal denotes⟩
  | group isOpening _ isClosing ih =>
    obtain ⟨e, expression⟩ := ih
    simp only [List.map_append, List.map_cons, List.map_nil]
    exact ⟨_, .group (keeps.word isOpening) expression (keeps.word isClosing)⟩
  | name isName => exact ⟨_, .name (keeps.name isName)⟩
  | call isName isOpening _ isClosing ih =>
    obtain ⟨args, arguments⟩ := ih
    simp only [List.map_append, List.map_cons, List.map_nil]
    exact ⟨_, .call (keeps.name isName) (keeps.word isOpening) arguments (keeps.word isClosing)⟩

end Grammar

namespace Token

/-- A token with zero in place of an integer that cannot be read. -/
def shortened (t : Token) : Token :=
  if t.kind = .integer ∧ Numeral.digitLimit < t.literal.toList.countP Char.isDigit then { t with literal := "0" }
  else t

theorem shortened_eq_self {t : Token} (readable : t.Readable) : t.shortened = t :=
  if_neg fun ⟨kind, long⟩ => Nat.not_lt_of_le (readable kind) long

theorem denotes_zero {t : Token} (kind : t.kind = .integer) :
    ({ t with literal := "0" } : Token).Denotes (.int 0) := by
  have zero : Lexeme.IntegerOf "0".toList 0 := .plain .zero
  exact .integer kind zero

theorem readable_shortened (t : Token) : t.shortened.Readable := by
  unfold shortened
  split
  next =>
    have short : "0".toList.countP Char.isDigit ≤ Numeral.digitLimit := by decide
    exact fun _ => short
  next short => exact fun kind => Nat.le_of_not_lt fun long => short ⟨kind, long⟩

/-- Only taken, and not looked at, can a token be told from what it is shortened to. -/
theorem resembles_shortened (t : Token) : t.Resembles t.shortened := by
  unfold shortened
  split
  next long =>
    have positive : 0 < t.literal.toList.countP Char.isDigit := Nat.zero_lt_of_lt long.2
    have other : "0" ∉ Lexeme.vocabulary := by decide
    exact .inr ⟨long.1, long.1, Lexeme.not_mem_vocabulary_of_isDigit (List.countP_pos_iff.mp positive), other⟩
  next => exact .inl rfl

end Token

theorem Grammar.keeps_shortened : Grammar.Keeps Token.shortened where
  word is := (Token.shortened_eq_self is.readable).symm ▸ is
  name isName := (Token.shortened_eq_self isName.readable).symm ▸ isName
  literal {t value} denotes := by
    unfold Token.shortened
    split
    next long => exact ⟨_, Token.denotes_zero long.1⟩
    next => exact ⟨value, denotes⟩

/-! ## Refusals -/

namespace Reading

open Grammar

variable {us more : List Token} {t : Token} {issue : ParseIssue}

theorem agree_shortened {ts : List Token} (readable : ∀ t ∈ us, t.Readable) :
    Agree (more.length + 1) (us ++ t :: more) ((us ++ t :: ts).map Token.shortened) := by
  induction us with
  | nil =>
    refine .cons t.resembles_shortened (fun within => ?_) (.beyond (Nat.lt_succ_self _))
    exact absurd within (Nat.not_succ_le_self _)
  | cons u us ih =>
    have same : u.shortened = u := Token.shortened_eq_self (readable u List.mem_cons_self)
    have others := ih fun t mem => readable t (List.mem_cons_of_mem u mem)
    rw [List.cons_append, List.cons_append, List.map_cons, same]
    exact .cons (.inl rfl) (fun _ => rfl) others

/-- What is refused at a token begins no program that goes on with that token. -/
theorem not_derives_of_refused (readable : ∀ t ∈ us, t.Readable)
    (refused : source (us ++ t :: more) = .error (.unexpected issue (t :: more))) (ts : List Token) (s : Source) :
    ¬ Derives .source (us ++ t :: ts) s := by
  intro derived
  obtain ⟨s', short⟩ := derived.map keeps_shortened
  have allReadable : ∀ u ∈ (us ++ t :: ts).map Token.shortened, u.Readable := by
    intro u mem
    obtain ⟨v, -, rfl⟩ := List.mem_map.mp mem
    exact v.readable_shortened
  have read := source_complete allReadable short
  obtain ⟨rest, refused', -⟩ := source_refuses refused le_rfl (agree_shortened readable)
  rw [read] at refused'
  cases refused'

/-- What was taken before a refusal can be read, and begins a program. -/
theorem viable_of_refused {ts rest : List Token} (fit : Fit ts)
    (refused : source ts = .error (.unexpected issue rest)) :
    ∃ us, ts = us ++ rest ∧ BeginProgram us ∧ ∀ t ∈ us, t.Readable := by
  have viable := source_viable ts.length ts le_rfl fit
  rw [whole, refused] at viable
  obtain ⟨us, more, same, ⟨s, derived⟩, readable⟩ := viable
  exact ⟨us, same, ⟨more, s, derived⟩, readable⟩

end Reading

open Grammar

/-- The refusal behind an error of the grammar, and the offset of the error. -/
theorem exists_refusal {tokens : List Token} {e : TextError} (refused : parseSource tokens = .error (.error e)) :
    ∃ issue rest, Reading.source tokens = .error (.unexpected issue rest) ∧ e.offset = offsetOf tokens rest := by
  unfold parseSource at refused
  match read : Reading.source tokens with
  | .ok s =>
    rw [read] at refused
    cases refused
  | .error (.unexpected issue rest) =>
    rw [read] at refused
    cases refused
    exact ⟨issue, rest, rfl, rfl⟩
  | .error (.unreadableInteger _) =>
    rw [read] at refused
    cases refused
  | .error .unreadableDecimal =>
    rw [read] at refused
    cases refused

/-- Where the last of some tokens ends, none of them begins. -/
theorem InOrder.offset_ne_end {tokens : List Token} {t : Token} {offset : Nat} (order : InOrder offset tokens)
    (mem : t ∈ tokens) : t.offset ≠ offsetOf tokens [] := by
  cases isLast : tokens.getLast? with
  | none =>
    rw [List.getLast?_eq_none_iff.mp isLast] at mem
    cases mem
  | some last =>
    have before := order.offset_lt_stop isLast mem
    have stop : offsetOf tokens [] = last.stop := by simp [offsetOf, isLast]
    omega

/-- An error in reading names the first token that no program goes on with: what stands before it begins a program, and
with it nothing does. If it names no token, it names the end of the last one: the tokens begin a program, and are none
themselves. -/
theorem refused_at_first_offence {text : List Char} {tokens : List Token} {e : TextError}
    (lexed : lex text = .ok tokens) (refused : parseSource tokens = .error (.error e)) :
    (∀ i t, tokens[i]? = some t → t.offset = e.offset →
        BeginProgram (tokens.take i) ∧ ¬ BeginProgram (tokens.take (i + 1))) ∧
      ((∀ t ∈ tokens, t.offset ≠ e.offset) →
        e.offset = (tokens.getLast?.map Token.stop).getD 0 ∧ BeginProgram tokens ∧
          ¬ ∃ s, Derives .source tokens s) := by
  have order := lex_inOrder lexed
  obtain ⟨issue, rest, read, located⟩ := exists_refusal refused
  obtain ⟨us, rfl, begins, readable⟩ := Reading.viable_of_refused (lex_wellFormed lexed) read
  cases rest with
  | nil =>
    rw [List.append_nil] at order located read ⊢
    refine ⟨fun i t isAt same => ?_, fun _ => ⟨located, begins, ?_⟩⟩
    · exact absurd (same.trans located) (order.offset_ne_end (List.mem_of_getElem? isAt))
    · rintro ⟨s, derived⟩
      rw [source_complete readable derived] at read
      cases read
  | cons t more =>
    have isAt : (us ++ t :: more)[us.length]? = some t := by simp
    refine ⟨fun i u isAt' same => ?_, fun none => absurd located.symm (none t (by simp))⟩
    obtain rfl := order.index_eq isAt' isAt (same.trans located)
    have before : (us ++ t :: more).take us.length = us := List.take_left
    have through : (us ++ t :: more).take (us.length + 1) = us ++ [t] := by simp [List.take_append]
    rw [before, through]
    refine ⟨begins, ?_⟩
    rintro ⟨ts, s, derived⟩
    rw [List.append_assoc] at derived
    exact Reading.not_derives_of_refused readable read ts s derived

/-- A statement without its semicolon is refused at the token behind it. -/
theorem missing_semicolon_refused :
    ∃ tokens e t, lex "DEF f() DO RETURN 1 END".toList = .ok tokens ∧
      parseSource tokens = .error (.error e) ∧ tokens[7]? = some t ∧ t.offset = e.offset ∧
      BeginProgram (tokens.take 7) ∧ ¬ BeginProgram (tokens.take 8) := by
  let tokens : List Token := [⟨.operator, "DEF", 0⟩, ⟨.identifier, "f", 4⟩, ⟨.operator, "(", 5⟩,
    ⟨.operator, ")", 6⟩, ⟨.operator, "DO", 8⟩, ⟨.operator, "RETURN", 11⟩, ⟨.integer, "1", 18⟩,
    ⟨.operator, "END", 20⟩]
  have lexed : lex "DEF f() DO RETURN 1 END".toList = .ok tokens := by decide +kernel
  have refused : parseSource tokens = .error (.error ⟨.grammatical .semicolon, 20⟩) := by cbv
  exact ⟨tokens, _, ⟨.operator, "END", 20⟩, lexed, refused, rfl, rfl,
    (refused_at_first_offence lexed refused).1 7 ⟨.operator, "END", 20⟩ rfl rfl⟩

end Primer
