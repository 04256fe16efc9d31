import Primer.Proofs.Grammar.Lookahead

/-!
# What was taken can be completed

A reader takes nothing that it could not go on from. Whatever it has taken when it is refused, some tokens
put behind that would have made a phrase.

**The law** (`source_viable`): tokens that were read are a program, and tokens that were taken before a
reading was refused are the beginning of one. Every integer among the tokens that were taken is short
enough to be read.

The languages of the grammar are sets of lists of tokens, and one phrase after another is their product. A
reader is `Viable` for a language when what it takes is in it, or is the beginning of something in it. That
is closed under reading one thing after another as long as the second language is not empty, which no
language of this grammar is.
-/

namespace Primer

namespace Token

theorem Is.readable {t : Token} {text : String} (is : t.Is text) : t.Readable := by
  intro kind
  rw [is.1] at kind
  cases kind

theorem IsName.readable {t : Token} (isName : t.IsName) : t.Readable := by
  intro kind
  rw [isName.1] at kind
  cases kind

end Token

namespace Reading

open Grammar

/-! ## Languages -/

/-- The phrases of a symbol. -/
def phrases (symbol : Symbol) : Language Token :=
  {us | ∃ tree, Derives symbol us tree}

/-- A reserved word or a symbol, alone. -/
def word (text : String) : Language Token :=
  {us | ∃ t : Token, us = [t] ∧ t.Is text}

/-- A name alone. -/
def names : Language Token :=
  {us | ∃ t : Token, us = [t] ∧ t.IsName}

/-- That a language is not empty. -/
class Productive (language : Language Token) : Prop where
  exists_mem : ∃ us, us ∈ language

instance (text : String) : Productive (word text) :=
  ⟨[⟨.operator, text, 0⟩], _, rfl, rfl, rfl⟩

instance : Productive names :=
  ⟨[⟨.identifier, "x", 0⟩], _, rfl, rfl, .word (by decide) (by simp), by decide⟩

instance : Productive (1 : Language Token) :=
  ⟨[], rfl⟩

instance (first second : Language Token) [Productive first] [Productive second] :
    Productive (first * second) := by
  obtain ⟨us, mem⟩ := ‹Productive first›.exists_mem
  obtain ⟨vs, mem'⟩ := ‹Productive second›.exists_mem
  exact ⟨us ++ vs, Language.append_mem_mul mem mem'⟩

instance (first second : Language Token) [Productive first] : Productive (first + second) := by
  obtain ⟨us, mem⟩ := ‹Productive first›.exists_mem
  exact ⟨us, .inl mem⟩

/-- The word `NIL` is a phrase of every sort of expression. -/
theorem derives_nil :
    ∃ e, Derives .primary [⟨.operator, "NIL", 0⟩] e ∧ Derives .secondary [⟨.operator, "NIL", 0⟩] e ∧
      ∀ level, Derives (.operation level) [⟨.operator, "NIL", 0⟩] e ∧
        Derives (.operand level) [⟨.operator, "NIL", 0⟩] e := by
  have primary : Derives .primary [⟨.operator, "NIL", 0⟩] _ := .literal (.nil ⟨rfl, rfl⟩)
  have secondary := Derives.secondary primary .noLinks
  have multiplicative := Derives.operation (.factor secondary) .noOperations
  have additive := Derives.operation (.multiplicative multiplicative) .noOperations
  have comparison := Derives.operation (.additive additive) .noOperations
  have logical := Derives.operation (.comparison comparison) .noOperations
  refine ⟨_, primary, secondary, fun level => ?_⟩
  cases level with
  | logical => exact ⟨logical, .comparison comparison⟩
  | comparison => exact ⟨comparison, .additive additive⟩
  | additive => exact ⟨additive, .multiplicative multiplicative⟩
  | multiplicative => exact ⟨multiplicative, .factor secondary⟩

instance (symbol : Symbol) : Productive (phrases symbol) := by
  obtain ⟨e, primary, secondary, leveled⟩ := derives_nil
  have isWord (text : String) : (⟨.operator, text, 0⟩ : Token).Is text := ⟨rfl, rfl⟩
  have isName : (⟨.identifier, "x", 0⟩ : Token).IsName := ⟨rfl, .word (by decide) (by simp), by decide⟩
  cases symbol with
  | source => exact ⟨_, _, .source .noFields .noMethods⟩
  | fields => exact ⟨_, _, .noFields⟩
  | field => exact ⟨_, _, .field (isWord "LET") isName (isWord ":") isName .noValue (isWord ";")⟩
  | methods => exact ⟨_, _, .noMethods⟩
  | method =>
    exact ⟨_, _, .method (isWord "DEF") isName (isWord "(") .noParams (isWord ")") .noType (isWord "DO")
      .noStatements (isWord "END")⟩
  | params => exact ⟨_, _, .noParams⟩
  | paramList => exact ⟨_, _, .lastParam isName (isWord ":") isName⟩
  | typeClause => exact ⟨_, _, .noType⟩
  | valueClause => exact ⟨_, _, .noValue⟩
  | statements => exact ⟨_, _, .noStatements⟩
  | statement => exact ⟨_, _, .returning (isWord "RETURN") (leveled .logical).1 (isWord ";")⟩
  | elseClause => exact ⟨_, _, .noElse⟩
  | operation level => exact ⟨_, _, (leveled level).1⟩
  | operand level => exact ⟨_, _, (leveled level).2⟩
  | operations level => exact ⟨_, _, .noOperations⟩
  | secondary => exact ⟨_, _, secondary⟩
  | links => exact ⟨_, _, .noLinks⟩
  | primary => exact ⟨_, _, primary⟩
  | arguments => exact ⟨_, _, .noArguments⟩
  | argumentList => exact ⟨_, _, .lastArgument (leveled .logical).1⟩

/-! ## Readers of a language -/

variable {α β : Type} {n : Nat} {text : String} {issue : ParseIssue} {level : Level}
  {L M N : Language Token}

/-- That what a reading took of some tokens can be read, and is in a language or, if the reading was
refused, the beginning of something in it. -/
def TakesFrom (L : Language Token) (ts : List Token) : Except ParseFailure (α × List Token) → Prop
  | .ok (_, rest) => ∃ us, ts = us ++ rest ∧ us ∈ L ∧ ∀ t ∈ us, t.Readable
  | .error (.unexpected _ rest) => ∃ us more, ts = us ++ rest ∧ us ++ more ∈ L ∧ ∀ t ∈ us, t.Readable
  | .error _ => True

/-- That a reader takes phrases of a language from at most `n` tokens. -/
def Viable (n : Nat) (L : Language Token) (m : Reader α) : Prop :=
  ∀ ts : List Token, ts.length ≤ n → Fit ts → TakesFrom L ts (m ts)

/-- What was taken before goes in front. -/
theorem TakesFrom.append {us rest : List Token} {r : Except ParseFailure (α × List Token)}
    (taken : us ∈ L) (readable : ∀ t ∈ us, t.Readable) (others : TakesFrom M rest r) :
    TakesFrom (L * M) (us ++ rest) r := by
  match r, others with
  | .ok (_, rest'), ⟨vs, same, others, readable'⟩ =>
    refine ⟨us ++ vs, by rw [same, List.append_assoc], Language.append_mem_mul taken others, fun t mem => ?_⟩
    exact (List.mem_append.mp mem).elim (readable t) (readable' t)
  | .error (.unexpected _ rest'), ⟨vs, more, same, others, readable'⟩ =>
    refine ⟨us ++ vs, more, by rw [same, List.append_assoc], ?_, fun t mem => ?_⟩
    · rw [List.append_assoc]
      exact Language.append_mem_mul taken others
    · exact (List.mem_append.mp mem).elim (readable t) (readable' t)
  | .error (.unreadableInteger _), _ => trivial
  | .error .unreadableDecimal, _ => trivial

theorem TakesFrom.le {ts : List Token} {r : Except ParseFailure (α × List Token)} (taken : TakesFrom L ts r)
    (le : L ≤ M) : TakesFrom M ts r := by
  match r, taken with
  | .ok (_, rest), ⟨us, same, mem, readable⟩ => exact ⟨us, same, le mem, readable⟩
  | .error (.unexpected _ rest), ⟨us, more, same, mem, readable⟩ => exact ⟨us, more, same, le mem, readable⟩
  | .error (.unreadableInteger _), _ => trivial
  | .error .unreadableDecimal, _ => trivial

/-- A reading that is refused at its first token. -/
theorem takesFrom_refused [Productive L] (ts : List Token) :
    TakesFrom L ts (.error (.unexpected issue ts) : Except ParseFailure (α × List Token)) := by
  obtain ⟨us, mem⟩ := ‹Productive L›.exists_mem
  exact ⟨[], us, rfl, mem, by simp⟩

namespace Viable

theorem mono {k : Nat} {m : Reader α} (viable : Viable n L m) (le : k ≤ n) : Viable k L m :=
  fun ts short => viable ts (short.trans le)

theorem le {m : Reader α} (viable : Viable n L m) (le : L ≤ M) : Viable n M m :=
  fun ts short fit => (viable ts short fit).le le

theorem pure (a : α) : Viable n 1 (pure a : Reader α) :=
  fun _ _ _ => ⟨[], rfl, rfl, by simp⟩

theorem refuse [Productive L] : Viable n L (refuse issue : Reader α) :=
  fun ts _ _ => takesFrom_refused ts

/-- One reader after another. What follows the first may count on the number of tokens that are left. -/
theorem bindLeft [Productive M] {m : Reader α} {f : α → Reader β} (first : Viable n L m)
    (others : ∀ a ts rest, ts.length ≤ n → rest.length ≤ ts.length → m ts = .ok (a, rest) →
      Viable rest.length M (f a)) : Viable n (L * M) (m >>= f) := by
  intro ts short fit
  have front := first ts short fit
  rw [bind_apply]
  match read : m ts with
  | .ok (a, rest) =>
    rw [read] at front
    obtain ⟨us, rfl, mem, readable⟩ := front
    have viable := others a _ rest short (List.suffix_append us rest).length_le read
    exact (viable rest le_rfl fit.of_append).append mem readable
  | .error (.unexpected _ rest) =>
    rw [read] at front
    obtain ⟨us, more, same, mem, readable⟩ := front
    obtain ⟨vs, mem'⟩ := ‹Productive M›.exists_mem
    refine ⟨us, more ++ vs, same, ?_, readable⟩
    rw [← List.append_assoc]
    exact Language.append_mem_mul mem mem'
  | .error (.unreadableInteger _) => trivial
  | .error .unreadableDecimal => trivial

/-- One reader after another. -/
theorem bind [Productive M] {m : Reader α} {f : α → Reader β} (first : Viable n L m)
    (others : ∀ a, Viable n M (f a)) : Viable n (L * M) (m >>= f) :=
  first.bindLeft fun a _ _ short fewer _ => (others a).mono (fewer.trans short)

/-- One reader after another that takes something. -/
theorem after [Productive M] {m : Reader α} {f : α → Reader β} (first : Viable n L m) (takes : Takes m)
    (others : ∀ k < n, ∀ a, Viable k M (f a)) : Viable n (L * M) (m >>= f) :=
  first.bindLeft fun a ts rest short _ read =>
    others rest.length (Nat.lt_of_lt_of_le (takes ts a rest read) short) a

/-- A reader that only makes something of what another one read. -/
theorem last {m : Reader α} {f : α → Reader β} (first : Viable n L m)
    (others : ∀ a, Viable n 1 (f a)) : Viable n L (m >>= f) :=
  (first.bind others).le (mul_one L).le

end Viable

/-! ## Single tokens -/

/-- Takes one token of a language, and goes on. -/
theorem TakesFrom.cons {t : Token} {rest : List Token} {r : Except ParseFailure (α × List Token)}
    (taken : [t] ∈ L) (readable : t.Readable) (others : TakesFrom M rest r) :
    TakesFrom (L * M) (t :: rest) r :=
  others.append taken (by simpa using readable)

theorem expect_viable (listed : text ∈ Lexeme.vocabulary) :
    Viable n (word text) (plain (expect text issue)) := by
  intro ts _ fit
  cases ts with
  | nil => exact takesFrom_refused []
  | cons t rest =>
    rw [plain_expect]
    split
    next is =>
      have isWord := (fit t List.mem_cons_self).is is listed
      exact ⟨[t], rfl, ⟨t, rfl, isWord⟩, by simpa using isWord.readable⟩
    next => exact takesFrom_refused _

theorem identifier_viable : Viable n names (plain (identifier issue)) := by
  intro ts _ fit
  cases ts with
  | nil => exact takesFrom_refused []
  | cons t rest =>
    rw [plain_identifier]
    split
    next is =>
      have isName : t.IsName := ⟨is, fit t List.mem_cons_self⟩
      exact ⟨[t], rfl, ⟨t, rfl, isName⟩, by simpa using isName.readable⟩
    next => exact takesFrom_refused _

theorem peek_viable {f : Option Token → Reader α} (others : ∀ t?, Viable n L (f t?)) :
    Viable n L (peek >>= f) :=
  fun ts short fit => others ts.head? ts short fit

theorem nextIs_viable {f : Bool → Reader α} (others : ∀ is, Viable n L (f is)) :
    Viable n L (nextIs text >>= f) :=
  fun ts short fit => others (accept? text ts).isSome ts short fit

/-- An optional word or symbol, and what comes with it. -/
theorem take?_viable {f : Option Token → Reader α} (M : Language Token) (listed : text ∈ Lexeme.vocabulary)
    (absent : Viable n L (f none)) (present : ∀ k < n, ∀ t, Viable k M (f (some t)))
    (within : word text * M ≤ L) : Viable n L (take? text >>= f) := by
  intro ts short fit
  rw [take?_bind]
  cases accepted : accept? text ts with
  | none => exact absent ts short fit
  | some p =>
    obtain ⟨t, rest, fewer⟩ := p
    obtain ⟨rfl, isWord⟩ := accept?_took fit accepted listed
    have others := present rest.length (Nat.lt_of_lt_of_le fewer short) t rest le_rfl fit.of_cons
    have taken : [t] ∈ word text := ⟨t, rfl, isWord⟩
    exact (others.cons taken isWord.readable).le within

/-- An optional operator of a level, and what comes with it. -/
theorem takeOperator?_viable {f : Option Operator → Reader α} (M : Language Token) (absent : Viable n L (f none))
    (present : ∀ k < n, ∀ op ∈ level.operators, Viable k M (f (some op)))
    (within : ∀ op ∈ level.operators, word op.symbol * M ≤ L) : Viable n L (takeOperator? level >>= f) := by
  intro ts short fit
  cases ts with
  | nil => exact absent [] short fit
  | cons t rest =>
    rw [takeOperator?_bind]
    cases found : level.operator? t with
    | none => exact absent (t :: rest) short fit
    | some op =>
      obtain ⟨listed, symbol⟩ := operator?_eq_some found
      have isSymbol := (fit t List.mem_cons_self).is symbol.symm (symbol_mem_vocabulary listed)
      have others := present rest.length (Nat.lt_of_lt_of_le (Nat.lt_succ_self _) short) op listed rest le_rfl
        fit.of_cons
      have taken : [t] ∈ word op.symbol := ⟨t, rfl, isSymbol⟩
      exact (others.cons taken isSymbol.readable).le (within op listed)

/-- An integer whose value was read can be read. -/
theorem readable_of_literal? {t : Token} {rest : List Token} {value : Value} (shape : t.WellFormed)
    (read : literal? t rest = some (.ok value)) : t.Readable := by
  intro kind
  unfold Token.WellFormed at shape
  rw [kind] at shape
  obtain ⟨n, shape⟩ := shape
  have other := ne_of_not_mem_vocabulary (Lexeme.not_mem_vocabulary_of_isDigit shape.exists_isDigit)
  by_contra long
  rw [literal?, Numeral.read_eq_of_integerOf shape, if_neg long] at read
  simp [other, kind] at read

/-- A token that is no literal is refused where it stands. -/
theorem eq_of_literal?_refused {t : Token} {rest left : List Token}
    (refused : literal? t rest = some (.error (.unexpected issue left))) : left = t :: rest := by
  unfold literal? at refused
  repeat' split at refused
  all_goals cases refused
  rfl

/-- The first token of a primary expression, and what comes with it. -/
theorem opening_viable [Productive L] {f : Opening → Reader α} (M N : Language Token)
    (literal : ∀ (t : Token) value, t.Denotes value → [t] ∈ L) (value : ∀ e, Viable n 1 (f (.value e)))
    (paren : ∀ k < n, ∀ offset, Viable k M (f (.paren offset))) (withinParen : word "(" * M ≤ L)
    (name : ∀ k < n, ∀ text offset, Viable k N (f (.name text offset))) (withinName : names * N ≤ L) :
    Viable n L (opening >>= f) := by
  intro ts short fit
  cases ts with
  | nil => exact takesFrom_refused []
  | cons t rest =>
    have less : rest.length < n := Nat.lt_of_lt_of_le (Nat.lt_succ_self _) short
    have shape := fit t List.mem_cons_self
    rw [bind_apply]
    dsimp only [opening]
    match read : literal? t rest with
    | some (.ok x) =>
      have taken : [t] ∈ L := literal t x (literal?_denotes shape read)
      have others := value (.literal x t.offset) rest less.le fit.of_cons
      exact (others.cons taken (readable_of_literal? shape read)).le (mul_one L).le
    | some (.error (.unexpected issue left)) =>
      cases eq_of_literal?_refused read
      exact takesFrom_refused _
    | some (.error (.unreadableInteger _)) => trivial
    | some (.error .unreadableDecimal) => trivial
    | none =>
      dsimp only
      split
      next isParen =>
        have isWord := shape.is (eq_of_beq isParen) (by decide)
        have taken : [t] ∈ word "(" := ⟨t, rfl, isWord⟩
        exact ((paren rest.length less t.offset rest le_rfl fit.of_cons).cons taken isWord.readable).le withinParen
      next =>
      split
      next kind =>
        have isName : t.IsName := ⟨eq_of_beq kind, shape⟩
        have taken : [t] ∈ names := ⟨t, rfl, isName⟩
        have others := name rest.length less t.literal t.offset rest le_rfl fit.of_cons
        exact (others.cons taken isName.readable).le withinName
      next => exact takesFrom_refused _

/-! ## Expressions -/

mutual
theorem operation_viable (level : Level) (n : Nat) :
    Viable n (phrases (.operation level)) (plain (operation level)) := by
  rw [plain_operation]
  refine ((operand_viable level n).after (plain_takes _) fun k less e => operations_viable level e k).le ?_
  rintro _ ⟨us, ⟨e, first⟩, vs, ⟨tail, others⟩, rfl⟩
  exact ⟨_, .operation first others⟩
termination_by (n, 2 * level.rank + 1)
decreasing_by
  all_goals simp only [Prod.lex_def, true_and, Level.rank]
  all_goals omega

theorem operand_viable (level : Level) (n : Nat) :
    Viable n (phrases (.operand level)) (plain (operand level)) := by
  rw [plain_operand]
  cases level with
  | logical => exact (operation_viable .comparison n).le fun _ ⟨e, derived⟩ => ⟨e, .comparison derived⟩
  | comparison => exact (operation_viable .additive n).le fun _ ⟨e, derived⟩ => ⟨e, .additive derived⟩
  | additive => exact (operation_viable .multiplicative n).le fun _ ⟨e, derived⟩ => ⟨e, .multiplicative derived⟩
  | multiplicative => exact (secondary_viable n).le fun _ ⟨e, derived⟩ => ⟨e, .factor derived⟩
termination_by (n, 2 * level.rank)
decreasing_by
  all_goals simp only [Prod.lex_def, true_and, Level.rank]
  all_goals omega

theorem operations_viable (level : Level) (left : Expr) (n : Nat) :
    Viable n (phrases (.operations level)) (plain (operations level left)) := by
  rw [plain_operations]
  refine takeOperator?_viable (phrases (.operand level) * phrases (.operations level))
    ((Viable.pure left).le ?_) (fun k less op _ => ?_) fun op listed => ?_
  · rintro _ rfl
    exact ⟨_, .noOperations⟩
  · exact (operand_viable level k).after (plain_takes _) fun j less' right => operations_viable level _ j
  · rintro _ ⟨_, ⟨symbol, rfl, isSymbol⟩, _, ⟨us, ⟨e, right⟩, vs, ⟨tail, others⟩, rfl⟩, rfl⟩
    have derived := Derives.operations listed isSymbol right others
    rw [List.append_assoc] at derived
    exact ⟨_, derived⟩
termination_by (n, 0)
decreasing_by
  all_goals simp only [Prod.lex_def, Level.rank]
  all_goals omega

theorem secondary_viable (n : Nat) : Viable n (phrases .secondary) (plain secondary) := by
  rw [plain_secondary]
  refine ((primary_viable n).after (plain_takes _) fun k less e => links_viable e k).le ?_
  rintro _ ⟨us, ⟨e, first⟩, vs, ⟨links, others⟩, rfl⟩
  exact ⟨_, .secondary first others⟩
termination_by (n, 1)
decreasing_by
  all_goals simp only [Prod.lex_def, true_and]
  all_goals omega

theorem links_viable (receiver : Expr) (n : Nat) : Viable n (phrases .links) (plain (links receiver)) := by
  rw [plain_links]
  let called : Language Token := word "(" * (phrases .arguments * word ")" * phrases .links)
  refine take?_viable (names * (phrases .links + called)) (by decide) ((Viable.pure receiver).le ?_)
    (fun k less _ => ?_) ?_
  · rintro _ rfl
    exact ⟨_, .noLinks⟩
  · refine identifier_viable.after (plain_takes _) fun j less' name => ?_
    refine take?_viable (phrases .arguments * word ")" * phrases .links) (by decide)
      ((links_viable _ j).le fun _ => .inl) (fun i lessI _ => ?_) fun _ => .inr
    exact (arguments_viable i).after (plain_takes _) fun h lessH args => links_viable _ h
  · rintro _ ⟨_, ⟨point, rfl, isPoint⟩, _, ⟨_, ⟨name, rfl, isName⟩, us, ⟨links, others⟩ | called, rfl⟩, rfl⟩
    · exact ⟨_, .fieldLink isPoint isName others⟩
    · obtain ⟨_, ⟨opening, rfl, isOpening⟩, _, inside, rfl⟩ := called
      obtain ⟨_, ⟨us, ⟨args, arguments⟩, _, ⟨closing, rfl, isClosing⟩, rfl⟩, vs, ⟨links, others⟩, rfl⟩ := inside
      exact ⟨_, .callLink isPoint isName isOpening arguments isClosing others⟩
termination_by (n, 0)
decreasing_by
  all_goals simp only [Prod.lex_def]
  all_goals omega

theorem arguments_viable (n : Nat) : Viable n (phrases .arguments * word ")") (plain arguments) := by
  rw [plain_arguments]
  refine take?_viable 1 (by decide) ((argumentList_viable n).le ?_) (fun _ _ _ => Viable.pure _) ?_
  · rintro _ ⟨us, ⟨args, some⟩, closing, isClosing, rfl⟩
    exact ⟨us, ⟨args, .arguments some⟩, closing, isClosing, rfl⟩
  · rintro _ ⟨closing, isClosing, _, rfl, rfl⟩
    exact ⟨[], ⟨[], .noArguments⟩, closing, isClosing, by simp⟩
termination_by (n, 11)
decreasing_by
  all_goals simp only [Prod.lex_def, true_and]
  all_goals omega

theorem argumentList_viable (n : Nat) : Viable n (phrases .argumentList * word ")") (plain argumentList) := by
  rw [plain_argumentList]
  let more : Language Token := word "," * (phrases .argumentList * word ")")
  refine ((operation_viable .logical n).after (plain_takes _) fun k less e => ?_).le
    (?_ : _ * (more + word ")") ≤ _)
  · refine take?_viable 1 (by decide) (Viable.le ?_ fun _ => .inl) (fun _ _ _ => Viable.pure _)
      ((mul_one (word ")")).le.trans fun _ => .inr)
    refine (expect_viable (by decide)).after (plain_takes _) fun j less' _ => ?_
    exact (argumentList_viable j).last fun _ => Viable.pure _
  · rintro _ ⟨us, ⟨e, expression⟩, _, ⟨_, ⟨comma, rfl, isComma⟩, _, inside, rfl⟩ | closing, rfl⟩
    · obtain ⟨vs, ⟨args, others⟩, closing, isClosing, rfl⟩ := inside
      refine ⟨us ++ [comma] ++ vs, ⟨_, .argument expression isComma others⟩, closing, isClosing, by simp⟩
    · exact ⟨us, ⟨_, .lastArgument expression⟩, _, closing, rfl⟩
termination_by (n, 10)
decreasing_by
  all_goals simp only [Prod.lex_def, true_and, Level.rank]
  all_goals omega

theorem primary_viable (n : Nat) : Viable n (phrases .primary) (plain primary) := by
  rw [plain_primary]
  refine opening_viable (phrases .expression * word ")") (1 + word "(" * (phrases .arguments * word ")"))
    (fun t value denotes => ⟨_, .literal denotes⟩) (fun e => Viable.pure e) (fun k less offset => ?_) ?_
    (fun k less text offset => ?_) ?_
  · refine (operation_viable .logical k).bind fun e => ?_
    exact (expect_viable (by decide)).last fun _ => Viable.pure _
  · rintro _ ⟨_, ⟨opening, rfl, isOpening⟩, _, ⟨us, ⟨e, expression⟩, _, ⟨closing, rfl, isClosing⟩, rfl⟩, rfl⟩
    exact ⟨_, .group isOpening expression isClosing⟩
  · refine take?_viable (phrases .arguments * word ")") (by decide) ((Viable.pure _).le fun _ => .inl)
      (fun j less' _ => ?_) fun _ => .inr
    exact (arguments_viable j).last fun args => Viable.pure _
  · rintro _ ⟨_, ⟨name, rfl, isName⟩, _, rfl | ⟨_, ⟨opening, rfl, isOpening⟩, _, inside, rfl⟩, rfl⟩
    · exact ⟨_, .name isName⟩
    · obtain ⟨us, ⟨args, arguments⟩, _, ⟨closing, rfl, isClosing⟩, rfl⟩ := inside
      exact ⟨_, .call isName isOpening arguments isClosing⟩
termination_by (n, 0)
decreasing_by
  all_goals simp only [Prod.lex_def, Level.rank]
  all_goals omega
end

theorem expression_viable (n : Nat) : Viable n (phrases .expression) (plain expression) :=
  operation_viable .logical n

/-! ## Statements -/

theorem typeClause_viable (n : Nat) : Viable n (phrases .typeClause) (plain typeClause) := by
  rw [plain_typeClause]
  refine take?_viable names (by decide) ((Viable.pure none).le ?_) (fun k _ _ => ?_) ?_
  · rintro _ rfl
    exact ⟨_, .noType⟩
  · exact identifier_viable.last fun name => Viable.pure _
  · rintro _ ⟨_, ⟨colon, rfl, isColon⟩, _, ⟨type, rfl, isType⟩, rfl⟩
    exact ⟨_, .type isColon isType⟩

theorem valueClause_viable (n : Nat) : Viable n (phrases .valueClause) (plain valueClause) := by
  rw [plain_valueClause]
  refine take?_viable (phrases .expression) (by decide) ((Viable.pure none).le ?_) (fun k _ _ => ?_) ?_
  · rintro _ rfl
    exact ⟨_, .noValue⟩
  · exact (expression_viable k).last fun e => Viable.pure _
  · rintro _ ⟨_, ⟨equals, rfl, isEquals⟩, us, ⟨e, expression⟩, rfl⟩
    exact ⟨_, .value isEquals expression⟩

theorem declaration_viable (n : Nat) : Viable n (phrases .statement) (plain declaration) := by
  rw [plain_declaration]
  refine ((expect_viable (by decide)).bind fun start => identifier_viable.bind fun name =>
    (typeClause_viable n).bind fun type => (valueClause_viable n).bind fun value =>
      (expect_viable (by decide)).last fun _ => Viable.pure _).le ?_
  rintro _ ⟨_, ⟨start, rfl, isStart⟩, _, ⟨_, ⟨name, rfl, isName⟩, _, ⟨us, ⟨type, typeClause⟩, _, inside, rfl⟩,
    rfl⟩, rfl⟩
  obtain ⟨vs, ⟨value, valueClause⟩, _, ⟨semicolon, rfl, isEnd⟩, rfl⟩ := inside
  have derived := Derives.declaration isStart isName typeClause valueClause isEnd
  exact ⟨_, by simpa using derived⟩

theorem assignment_viable (n : Nat) : Viable n (phrases .statement) (plain assignment) := by
  rw [plain_assignment]
  refine ((expression_viable n).bind fun target => (valueClause_viable n).bind fun value =>
    (expect_viable (by decide)).last fun _ => ?_).le ?_
  · cases value <;> exact Viable.pure _
  · rintro _ ⟨us, ⟨target, left⟩, _, ⟨vs, ⟨value, clause⟩, _, ⟨semicolon, rfl, isEnd⟩, rfl⟩, rfl⟩
    cases clause with
    | noValue => exact ⟨_, .expression left isEnd⟩
    | value isEquals right =>
      have derived := Derives.assignment left isEquals right isEnd
      exact ⟨_, by simpa using derived⟩

theorem returning_viable (n : Nat) : Viable n (phrases .statement) (plain returning) := by
  rw [plain_returning]
  refine ((expect_viable (by decide)).bind fun start => (expression_viable n).bind fun value =>
    (expect_viable (by decide)).last fun _ => Viable.pure _).le ?_
  rintro _ ⟨_, ⟨start, rfl, isStart⟩, _, ⟨us, ⟨value, expression⟩, _, ⟨semicolon, rfl, isEnd⟩, rfl⟩, rfl⟩
  exact ⟨_, .returning isStart expression isEnd⟩

mutual
theorem statement_viable (n : Nat) : Viable n (phrases .statement) (plain statement) := by
  rw [plain_statement]
  refine peek_viable fun t? => ?_
  unfold statementAt
  split
  · exact declaration_viable n
  · exact conditional_viable n
  · exact forEach_viable n
  · exact whileLoop_viable n
  · exact returning_viable n
  · exact assignment_viable n
termination_by (n, 1)
decreasing_by
  all_goals simp only [Prod.lex_def, true_and]
  all_goals omega

theorem conditional_viable (n : Nat) : Viable n (phrases .statement) (plain conditional) := by
  rw [plain_conditional]
  refine ((expect_viable (by decide)).after (plain_takes _) fun k less start => (expression_viable k).bind
    fun condition => (expect_viable (by decide)).bind fun _ => (block_viable ["ELSE", "END"] k).bind
      fun thenPart => take?_viable (phrases .statements * word "END") (by decide)
        (?_ : Viable k (phrases .elseClause * word "END") _) (fun j less' _ => ?_) ?_).le ?_
  · refine ((expect_viable (by decide)).last fun _ => Viable.pure _).le ?_
    exact fun us stop => ⟨[], ⟨[], .noElse⟩, us, stop, rfl⟩
  · exact (block_viable ["END"] j).bind fun elsePart => (expect_viable (by decide)).last fun _ => Viable.pure _
  · rintro _ ⟨_, ⟨word, rfl, isWord⟩, _, ⟨us, ⟨ss, statements⟩, stop, isStop, rfl⟩, rfl⟩
    exact ⟨word :: us, ⟨ss, .elseClause isWord statements⟩, stop, isStop, rfl⟩
  · rintro _ ⟨_, ⟨start, rfl, isStart⟩, _, ⟨us, ⟨condition, expression⟩, _, ⟨_, ⟨begin, rfl, isDo⟩, _, inside,
      rfl⟩, rfl⟩, rfl⟩
    obtain ⟨vs, ⟨thenPart, statements⟩, _, ⟨ws, ⟨elsePart, clause⟩, _, ⟨stop, rfl, isEnd⟩, rfl⟩, rfl⟩ := inside
    have derived := Derives.conditional isStart expression isDo statements clause isEnd
    exact ⟨_, by simpa using derived⟩
termination_by (n, 0)
decreasing_by
  all_goals simp only [Prod.lex_def]
  all_goals omega

theorem forEach_viable (n : Nat) : Viable n (phrases .statement) (plain forEach) := by
  rw [plain_forEach]
  refine ((expect_viable (by decide)).after (plain_takes _) fun k less start => identifier_viable.bind fun name =>
    (expect_viable (by decide)).bind fun _ => (expression_viable k).bind fun iterable =>
      (expect_viable (by decide)).bind fun _ => (block_viable ["END"] k).bind fun body =>
        (expect_viable (by decide)).last fun _ => Viable.pure _).le ?_
  rintro _ ⟨_, ⟨start, rfl, isStart⟩, _, ⟨_, ⟨name, rfl, isName⟩, _, ⟨_, ⟨within, rfl, isIn⟩, _, inside, rfl⟩,
    rfl⟩, rfl⟩
  obtain ⟨us, ⟨iterable, expression⟩, _, ⟨_, ⟨begin, rfl, isDo⟩, _, body, rfl⟩, rfl⟩ := inside
  obtain ⟨vs, ⟨ss, statements⟩, _, ⟨stop, rfl, isEnd⟩, rfl⟩ := body
  have derived := Derives.forEach isStart isName isIn expression isDo statements isEnd
  exact ⟨_, by simpa using derived⟩
termination_by (n, 0)
decreasing_by
  all_goals simp only [Prod.lex_def]
  all_goals omega

theorem whileLoop_viable (n : Nat) : Viable n (phrases .statement) (plain whileLoop) := by
  rw [plain_whileLoop]
  refine ((expect_viable (by decide)).after (plain_takes _) fun k less start => (expression_viable k).bind
    fun condition => (expect_viable (by decide)).bind fun _ => (block_viable ["END"] k).bind fun body =>
      (expect_viable (by decide)).last fun _ => Viable.pure _).le ?_
  rintro _ ⟨_, ⟨start, rfl, isStart⟩, _, ⟨us, ⟨condition, expression⟩, _, ⟨_, ⟨begin, rfl, isDo⟩, _, inside, rfl⟩,
    rfl⟩, rfl⟩
  obtain ⟨vs, ⟨ss, statements⟩, _, ⟨stop, rfl, isEnd⟩, rfl⟩ := inside
  have derived := Derives.whileLoop isStart expression isDo statements isEnd
  exact ⟨_, by simpa using derived⟩
termination_by (n, 0)
decreasing_by
  all_goals simp only [Prod.lex_def]
  all_goals omega

theorem block_viable (stops : List String) (n : Nat) : Viable n (phrases .statements) (plain (block stops)) := by
  rw [plain_block]
  refine peek_viable fun t? => ?_
  match t? with
  | none => exact .refuse
  | some t =>
    dsimp only
    split
    next =>
      refine (Viable.pure _).le ?_
      rintro _ rfl
      exact ⟨_, .noStatements⟩
    next =>
      refine ((statement_viable n).after (plain_takes _) fun k less s =>
        (block_viable stops k).last fun ss => Viable.pure _).le ?_
      rintro _ ⟨us, ⟨s, first⟩, vs, ⟨ss, others⟩, rfl⟩
      exact ⟨_, .statements first others⟩
termination_by (n, 2)
decreasing_by
  all_goals simp only [Prod.lex_def, true_and]
  all_goals omega
end

/-! ## Programs -/

theorem field_viable (n : Nat) : Viable n (phrases .field) (plain field) := by
  rw [plain_field]
  refine ((expect_viable (by decide)).bind fun start => identifier_viable.bind fun name =>
    (expect_viable (by decide)).bind fun _ => identifier_viable.bind fun type =>
      (valueClause_viable n).bind fun value => (expect_viable (by decide)).last fun _ => Viable.pure _).le ?_
  rintro _ ⟨_, ⟨start, rfl, isStart⟩, _, ⟨_, ⟨name, rfl, isName⟩, _, ⟨_, ⟨colon, rfl, isColon⟩, _, inside, rfl⟩,
    rfl⟩, rfl⟩
  obtain ⟨_, ⟨type, rfl, isType⟩, _, ⟨us, ⟨value, clause⟩, _, ⟨semicolon, rfl, isEnd⟩, rfl⟩, rfl⟩ := inside
  exact ⟨_, .field isStart isName isColon isType clause isEnd⟩

theorem paramList_viable (n : Nat) : Viable n (phrases .paramList) (plain paramList) := by
  rw [plain_paramList]
  refine (identifier_viable.after (plain_takes _) fun k less name => (expect_viable (by decide)).bind fun _ =>
    identifier_viable.bind fun type =>
      (?_ : Viable k (1 + word "," * phrases .paramList) (take? "," >>= _))).le ?_
  · refine take?_viable (phrases .paramList) (by decide) ((Viable.pure _).le fun _ => .inl) (fun j less' _ => ?_)
      fun _ => .inr
    exact (paramList_viable j).last fun ps => Viable.pure _
  · rintro _ ⟨_, ⟨name, rfl, isName⟩, _, ⟨_, ⟨colon, rfl, isColon⟩, _, ⟨_, ⟨type, rfl, isType⟩, _, more, rfl⟩, rfl⟩,
      rfl⟩
    rcases more with rfl | ⟨_, ⟨comma, rfl, isComma⟩, us, ⟨ps, others⟩, rfl⟩
    · exact ⟨_, .lastParam isName isColon isType⟩
    · exact ⟨_, .param isName isColon isType isComma others⟩
termination_by n
decreasing_by all_goals omega

theorem params_viable (n : Nat) : Viable n (phrases .params) (plain params) := by
  rw [plain_params]
  refine nextIs_viable fun closing => ?_
  cases closing with
  | true =>
    refine (Viable.pure _).le ?_
    rintro _ rfl
    exact ⟨_, .noParams⟩
  | false => exact (paramList_viable n).le fun _ ⟨ps, derived⟩ => ⟨ps, .params derived⟩

theorem method_viable (n : Nat) : Viable n (phrases .method) (plain method) := by
  rw [plain_method]
  refine ((expect_viable (by decide)).bind fun start => identifier_viable.bind fun name =>
    (expect_viable (by decide)).bind fun _ => (params_viable n).bind fun ps => (expect_viable (by decide)).bind
      fun _ => (typeClause_viable n).bind fun result => (expect_viable (by decide)).bind fun _ =>
        (block_viable ["END"] n).bind fun body => (expect_viable (by decide)).last fun _ => Viable.pure _).le ?_
  rintro _ ⟨_, ⟨start, rfl, isStart⟩, _, ⟨_, ⟨name, rfl, isName⟩, _, ⟨_, ⟨opening, rfl, isOpening⟩, _, inside, rfl⟩,
    rfl⟩, rfl⟩
  obtain ⟨us, ⟨ps, params⟩, _, ⟨_, ⟨closing, rfl, isClosing⟩, _, rest, rfl⟩, rfl⟩ := inside
  obtain ⟨vs, ⟨result, clause⟩, _, ⟨_, ⟨begin, rfl, isDo⟩, _, body, rfl⟩, rfl⟩ := rest
  obtain ⟨ws, ⟨ss, statements⟩, _, ⟨stop, rfl, isEnd⟩, rfl⟩ := body
  have derived := Derives.method isStart isName isOpening params isClosing clause isDo statements isEnd
  exact ⟨_, by simpa using derived⟩

theorem methods_viable (n : Nat) : Viable n (phrases .methods) (whole methods) := by
  rw [whole_methods]
  refine peek_viable fun t? => ?_
  match t? with
  | none =>
    refine (Viable.pure _).le ?_
    rintro _ rfl
    exact ⟨_, .noMethods⟩
  | some t =>
    dsimp only
    split
    next => exact .refuse
    next =>
    split
    next =>
      refine ((method_viable n).after (plain_takes _) fun k less m =>
        (methods_viable k).last fun ms => Viable.pure _).le ?_
      rintro _ ⟨us, ⟨m, first⟩, vs, ⟨ms, others⟩, rfl⟩
      exact ⟨_, .methods first others⟩
    next => exact .refuse
termination_by n
decreasing_by all_goals omega

theorem source_viable (n : Nat) : Viable n (phrases .source) (whole source) := by
  rw [whole_source]
  refine peek_viable fun t? => ?_
  match t? with
  | none =>
    refine (Viable.pure _).le ?_
    rintro _ rfl
    exact ⟨_, .source .noFields .noMethods⟩
  | some t =>
    dsimp only
    split
    next =>
      refine ((field_viable n).after (plain_takes _) fun k less f =>
        (source_viable k).last fun s => Viable.pure _).le ?_
      rintro _ ⟨us, ⟨f, first⟩, _, ⟨s, others⟩, rfl⟩
      cases others with
      | source fields methods =>
        have derived := Derives.source (.fields first fields) methods
        exact ⟨_, by simpa using derived⟩
    next =>
      refine ((methods_viable n).last fun ms => Viable.pure _).le ?_
      rintro us ⟨ms, methods⟩
      exact ⟨_, .source .noFields methods⟩
termination_by n
decreasing_by all_goals omega

end Reading

end Primer
