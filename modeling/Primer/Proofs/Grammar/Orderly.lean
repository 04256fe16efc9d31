import Primer.Proofs.Grammar.Lookahead
import Primer.Proofs.Tree.Fresh

/-!
# Readings end orderly

A reading may end for a reason that is no matter of the grammar: a number that cannot be read, or a character
literal that is not of one character. The lexer leaves only one such reason, an integer that is too long.

**The law** (`source_orderly`): where the tokens have the shapes of their kinds and no integer among them is too
long, a reading refuses a token by a rule of the grammar, or it gives a fresh tree whose literals have a text.

What there is to know about literals is all in `literal?_orderly`. A reader is `Orderly` with regard to what it
promises of a tree, and that is closed under reading one thing after another.
-/

namespace Primer

namespace Token

variable {t : Token} {value : Value}

/-- A token that stands for a value stands for one that can be a literal. -/
theorem Denotes.isLiteral (denotes : t.Denotes value) (readable : t.Readable) : value.IsLiteral := by
  cases denotes with
  | integer kind shape =>
    refine ⟨trivial, Option.ne_none_iff_exists'.mp fun textless => ?_⟩
    rw [Value.display?_int] at textless
    have long := Numeral.write?_eq_none_iff.mp textless
    exact Nat.not_le_of_lt (Numeral.natAbs_lt_of_integerOf shape (readable kind)) long
  | nil | true | false | decimal | character | string => exact ⟨trivial, _, rfl⟩

/-- A token that is neither a word or symbol nor a name stands for a value. -/
theorem WellFormed.exists_denotes (shape : t.WellFormed) (notOperator : t.kind ≠ .operator)
    (notName : t.kind ≠ .identifier) : ∃ value, t.Denotes value := by
  unfold WellFormed at shape
  cases kind : t.kind with
  | operator => exact absurd kind notOperator
  | identifier => exact absurd kind notName
  | integer =>
    rw [kind] at shape
    obtain ⟨n, shape⟩ := shape
    exact ⟨_, .integer kind shape⟩
  | decimal =>
    rw [kind] at shape
    obtain ⟨d, shape⟩ := shape
    exact ⟨_, .decimal kind shape⟩
  | character =>
    rw [kind] at shape
    obtain ⟨c, shape⟩ := shape
    exact ⟨_, .character kind shape⟩
  | string =>
    rw [kind] at shape
    obtain ⟨cs, shape⟩ := shape
    exact ⟨_, .string kind shape⟩
  | other text =>
    rw [kind] at shape
    exact shape.elim

end Token

namespace Reading

variable {α β : Type} {n : Nat} {text : String} {issue : ParseIssue} {level : Level} {t : Token}
  {ts rest : List Token}

/-- A token of a text is no literal, or one whose value can be read. -/
theorem literal?_orderly (shape : t.WellFormed) (readable : t.Readable) :
    literal? t rest = none ∨ ∃ value, literal? t rest = some (.ok value) ∧ value.IsLiteral := by
  by_cases plain : t.kind = .operator ∨ t.kind = .identifier
  · unfold literal?
    split
    next => exact .inr ⟨.nil, rfl, trivial, _, rfl⟩
    next =>
    split
    next => exact .inr ⟨.bool true, rfl, trivial, _, rfl⟩
    next =>
    split
    next => exact .inr ⟨.bool false, rfl, trivial, _, rfl⟩
    next =>
      apply Or.inl
      rcases plain with kind | kind
      · rw [kind]
      · rw [kind]
  · obtain ⟨notOperator, notName⟩ := not_or.mp plain
    obtain ⟨value, denotes⟩ := shape.exists_denotes notOperator notName
    exact .inr ⟨value, literal?_of_denotes denotes readable, denotes.isLiteral readable⟩

/-- That tokens can all be read: each has the shape of its kind, and no integer is too long. -/
def Legible (ts : List Token) : Prop :=
  ∀ t ∈ ts, t.WellFormed ∧ t.Readable

/-- How a reading of some tokens may end: with what was promised, or refused by a rule of the grammar. -/
def EndsOrderly (post : α → Prop) (ts : List Token) : Except ParseFailure (α × List Token) → Prop
  | .ok (a, rest) => post a ∧ rest <:+ ts
  | .error (.unexpected issue _) => issue ≠ .characterLength
  | .error _ => False

/-- That a reader of at most `n` tokens ends orderly. -/
def Orderly (n : Nat) (post : α → Prop) (m : Reader α) : Prop :=
  ∀ ts : List Token, ts.length ≤ n → Legible ts → EndsOrderly post ts (m ts)

/-! ## One after the other -/

namespace Orderly

variable {mid : β → Prop} {post : α → Prop}

theorem mono {k : Nat} {m : Reader α} (orderly : Orderly n post m) (le : k ≤ n) : Orderly k post m :=
  fun ts short => orderly ts (short.trans le)

theorem pure {a : α} (holds : post a) : Orderly n post (pure a) :=
  fun ts _ _ => ⟨holds, List.suffix_refl ts⟩

theorem refuse (other : issue ≠ .characterLength) : Orderly n post (refuse issue) :=
  fun _ _ _ => other

/-- One reader after another. What follows the first may count on the number of tokens that are left. -/
theorem bindLeft {m : Reader β} {f : β → Reader α} (first : Orderly n mid m)
    (others : ∀ b ts rest, ts.length ≤ n → rest.length ≤ ts.length → m ts = .ok (b, rest) → mid b →
      Orderly rest.length post (f b)) : Orderly n post (m >>= f) := by
  intro ts short legible
  have front := first ts short legible
  rw [bind_apply]
  match read : m ts with
  | .ok (b, rest) =>
    rw [read] at front
    obtain ⟨holds, suffix⟩ := front
    have legible' : Legible rest := fun t mem => legible t (suffix.subset mem)
    have later := others b ts rest short suffix.length_le read holds rest le_rfl legible'
    change EndsOrderly post ts (f b rest)
    match read' : f b rest with
    | .ok (a, rest') =>
      rw [read'] at later
      exact ⟨later.1, later.2.trans suffix⟩
    | .error (.unexpected issue _) =>
      rw [read'] at later
      exact later
    | .error (.unreadableInteger _) | .error .unreadableDecimal =>
      rw [read'] at later
      exact later
  | .error (.unexpected issue _) =>
    rw [read] at front
    exact front
  | .error (.unreadableInteger _) | .error .unreadableDecimal =>
    rw [read] at front
    exact front

/-- One reader after another. -/
theorem bind {m : Reader β} {f : β → Reader α} (first : Orderly n mid m)
    (others : ∀ b, mid b → Orderly n post (f b)) : Orderly n post (m >>= f) :=
  first.bindLeft fun b _ _ short fewer _ holds => (others b holds).mono (fewer.trans short)

/-- One reader after another that takes something. -/
theorem after {m : Reader β} {f : β → Reader α} (first : Orderly n mid m) (takes : Takes m)
    (others : ∀ k < n, ∀ b, mid b → Orderly k post (f b)) : Orderly n post (m >>= f) :=
  first.bindLeft fun b ts rest short _ read holds =>
    others rest.length (Nat.lt_of_lt_of_le (takes ts b rest read) short) b holds

end Orderly

/-! ## Single tokens -/

variable {post : α → Prop}

theorem expect_orderly (other : issue ≠ .characterLength) :
    Orderly n (fun _ => True) (plain (expect text issue)) := by
  intro ts _ _
  cases ts with
  | nil => exact other
  | cons t rest =>
    rw [plain_expect]
    split
    next => exact ⟨trivial, List.suffix_cons t rest⟩
    next => exact other

theorem identifier_orderly (other : issue ≠ .characterLength) :
    Orderly n (fun _ => True) (plain (identifier issue)) := by
  intro ts _ _
  cases ts with
  | nil => exact other
  | cons t rest =>
    rw [plain_identifier]
    split
    next => exact ⟨trivial, List.suffix_cons t rest⟩
    next => exact other

theorem peek_orderly {f : Option Token → Reader α} (others : ∀ t?, Orderly n post (f t?)) :
    Orderly n post (peek >>= f) :=
  fun ts short legible => others ts.head? ts short legible

theorem nextIs_orderly {f : Bool → Reader α} (others : ∀ is, Orderly n post (f is)) :
    Orderly n post (nextIs text >>= f) :=
  fun ts short legible => others (accept? text ts).isSome ts short legible

/-- A reading of the tokens behind the first is one of all of them. -/
theorem EndsOrderly.of_tail {r : Except ParseFailure (α × List Token)} (ends : EndsOrderly post rest r) :
    EndsOrderly post (t :: rest) r := by
  match r, ends with
  | .ok (a, left), ⟨holds, suffix⟩ => exact ⟨holds, suffix.trans (List.suffix_cons t rest)⟩
  | .error (.unexpected issue _), other => exact other

theorem Legible.of_cons (legible : Legible (t :: rest)) : Legible rest :=
  fun u mem => legible u (List.mem_cons_of_mem t mem)

/-- An optional word or symbol, and what comes with it. -/
theorem take?_orderly {f : Option Token → Reader α} (absent : Orderly n post (f none))
    (present : ∀ k < n, ∀ t, Orderly k post (f (some t))) : Orderly n post (take? text >>= f) := by
  intro ts short legible
  rw [take?_bind]
  cases ts with
  | nil => exact absent [] short legible
  | cons t rest =>
    by_cases is : t.literal = text
    · have taken : accept? text (t :: rest) = some ⟨t, rest, Nat.lt_succ_self _⟩ := by simp [accept?, is]
      rw [taken]
      have less : rest.length < n := Nat.lt_of_lt_of_le (Nat.lt_succ_self _) short
      exact (present rest.length less t rest le_rfl legible.of_cons).of_tail
    · have left : accept? text (t :: rest) = none := by simp [accept?, is]
      rw [left]
      exact absent (t :: rest) short legible

/-- The operators of a level are known. -/
theorem known_of_mem_operators {op : Operator} (listed : op ∈ level.operators) : op.IsKnown := by
  rintro symbol rfl
  cases level <;> simp [Level.operators] at listed

/-- An optional operator of a level, and what comes with it. -/
theorem takeOperator?_orderly {f : Option Operator → Reader α} (absent : Orderly n post (f none))
    (present : ∀ k < n, ∀ op : Operator, op.IsKnown → Orderly k post (f (some op))) :
    Orderly n post (takeOperator? level >>= f) := by
  intro ts short legible
  cases ts with
  | nil => exact absent [] short legible
  | cons t rest =>
    rw [takeOperator?_bind]
    cases found : level.operator? t with
    | none => exact absent (t :: rest) short legible
    | some op =>
      have known := known_of_mem_operators (operator?_eq_some found).1
      have less : rest.length < n := Nat.lt_of_lt_of_le (Nat.lt_succ_self _) short
      exact (present rest.length less op known rest le_rfl legible.of_cons).of_tail

/-- What is promised of the beginning of a primary expression. -/
def Opening.Fresh : Opening → Prop
  | .value e => e.Fresh
  | .paren _ | .name _ _ => True

/-- Here is the only place where a number or a character can be wrong. -/
theorem opening_orderly : Orderly n Opening.Fresh opening := by
  intro ts _ legible
  cases ts with
  | nil => exact ParseIssue.noConfusion
  | cons t rest =>
    have suffix := List.suffix_cons t rest
    obtain ⟨shape, readable⟩ := legible t List.mem_cons_self
    unfold opening
    rcases literal?_orderly shape readable with isOther | ⟨value, isLiteral, sort⟩
    · dsimp only
      rw [isOther]
      dsimp only
      split
      next => exact ⟨trivial, suffix⟩
      next =>
      split
      next => exact ⟨trivial, suffix⟩
      next => exact ParseIssue.noConfusion
    · dsimp only
      rw [isLiteral]
      exact ⟨.literal sort, suffix⟩

/-! ## Expressions -/

/-- That all of some expressions are fresh. -/
abbrev AllFresh (es : List Expr) : Prop :=
  ∀ e ∈ es, e.Fresh

mutual
theorem operation_orderly (level : Level) (n : Nat) :
    Orderly n Expr.Fresh (plain (operation level)) := by
  rw [plain_operation]
  exact (operand_orderly level n).after (plain_takes _) fun k less left fresh => operations_orderly level fresh k
termination_by (n, 2 * level.rank + 1)
decreasing_by
  all_goals simp only [Prod.lex_def, true_and, Level.rank]
  all_goals omega

theorem operand_orderly (level : Level) (n : Nat) :
    Orderly n Expr.Fresh (plain (operand level)) := by
  rw [plain_operand]
  cases level with
  | logical => exact operation_orderly .comparison n
  | comparison => exact operation_orderly .additive n
  | additive => exact operation_orderly .multiplicative n
  | multiplicative => exact secondary_orderly n
termination_by (n, 2 * level.rank)
decreasing_by
  all_goals simp only [Prod.lex_def, true_and, Level.rank]
  all_goals omega

theorem operations_orderly (level : Level) {left : Expr} (fresh : left.Fresh)
    (n : Nat) :
    Orderly n Expr.Fresh (plain (operations level left)) := by
  rw [plain_operations]
  apply takeOperator?_orderly
  · exact .pure fresh
  · intro k less op known
    refine (operand_orderly level k).after (plain_takes _) fun j less' right freshRight => ?_
    exact operations_orderly level (.binary known fresh freshRight) j
termination_by (n, 0)
decreasing_by
  all_goals simp only [Prod.lex_def, Level.rank]
  all_goals omega

theorem secondary_orderly (n : Nat) : Orderly n Expr.Fresh (plain secondary) := by
  rw [plain_secondary]
  exact (primary_orderly n).after (plain_takes _) fun k less e fresh => links_orderly fresh k
termination_by (n, 1)
decreasing_by
  all_goals simp only [Prod.lex_def, true_and]
  all_goals omega

theorem links_orderly {receiver : Expr} (fresh : receiver.Fresh) (n : Nat) :
    Orderly n Expr.Fresh (plain (links receiver)) := by
  rw [plain_links]
  apply take?_orderly
  · exact .pure fresh
  · intro k less _
    refine (identifier_orderly (by nofun)).after (plain_takes _) fun j less' name _ => ?_
    apply take?_orderly
    · exact links_orderly (.field fresh) j
    · intro i lessI _
      refine (arguments_orderly i).after (plain_takes _) fun h lessH args given => ?_
      exact links_orderly (.send fresh given) h
termination_by (n, 0)
decreasing_by
  all_goals simp only [Prod.lex_def]
  all_goals omega

theorem arguments_orderly (n : Nat) : Orderly n AllFresh (plain arguments) := by
  rw [plain_arguments]
  apply take?_orderly
  · exact argumentList_orderly n
  · exact fun k less _ => .pure (List.forall_mem_nil _)
termination_by (n, 11)
decreasing_by
  all_goals simp only [Prod.lex_def, true_and]
  all_goals omega

theorem argumentList_orderly (n : Nat) : Orderly n AllFresh (plain argumentList) := by
  rw [plain_argumentList]
  refine (operation_orderly .logical n).after (plain_takes _) fun k less e fresh => ?_
  apply take?_orderly
  · refine (expect_orderly (by nofun)).after (plain_takes _) fun j less' _ _ => ?_
    refine (argumentList_orderly j).bind fun es others => ?_
    exact .pure (List.forall_mem_cons.mpr ⟨fresh, others⟩)
  · exact fun j less' _ => .pure (List.forall_mem_singleton.mpr fresh)
termination_by (n, 10)
decreasing_by
  all_goals simp only [Prod.lex_def, true_and, Level.rank]
  all_goals omega

theorem primary_orderly (n : Nat) : Orderly n Expr.Fresh (plain primary) := by
  rw [plain_primary]
  refine opening_orderly.after opening_takes fun k less first fresh => ?_
  cases first with
  | value e => exact .pure fresh
  | paren offset =>
    refine (operation_orderly .logical k).bind fun e inside => ?_
    exact (expect_orderly (by nofun)).bind fun _ _ => .pure (.group inside)
  | name text offset =>
    apply take?_orderly
    · exact .pure .ref
    · exact fun j less' _ => (arguments_orderly j).bind fun args given => .pure (.call given)
termination_by (n, 0)
decreasing_by
  all_goals simp only [Prod.lex_def, Level.rank]
  all_goals omega
end

theorem expression_orderly (n : Nat) : Orderly n Expr.Fresh (plain expression) :=
  operation_orderly .logical n

/-! ## Statements -/

theorem typeClause_orderly (n : Nat) : Orderly n (fun _ => True) (plain typeClause) := by
  rw [plain_typeClause]
  apply take?_orderly
  · exact .pure trivial
  · exact fun k less _ => (identifier_orderly (by nofun)).bind fun name _ => .pure trivial

theorem valueClause_orderly (n : Nat) :
    Orderly n (fun value : Option Expr => ∀ e ∈ value, e.Fresh)
      (plain valueClause) := by
  rw [plain_valueClause]
  apply take?_orderly
  · exact .pure (by simp)
  · exact fun k less _ => (expression_orderly k).bind fun e fresh => .pure (by simpa using fresh)

theorem declaration_orderly (n : Nat) :
    Orderly n Stmt.Fresh (plain declaration) := by
  rw [plain_declaration]
  refine (expect_orderly (by nofun)).bind fun start _ => (identifier_orderly (by nofun)).bind fun name _ => ?_
  refine (typeClause_orderly n).bind fun typeName _ => (valueClause_orderly n).bind fun value fresh => ?_
  exact (expect_orderly (by nofun)).bind fun _ _ => .pure (.declaration fresh)

theorem assignment_orderly (n : Nat) :
    Orderly n Stmt.Fresh (plain assignment) := by
  rw [plain_assignment]
  refine (expression_orderly n).bind fun target left => (valueClause_orderly n).bind fun value right => ?_
  refine (expect_orderly (by nofun)).bind fun _ _ => ?_
  cases value with
  | none => exact .pure (.expression left)
  | some value => exact .pure (.assignment left (right value rfl))

theorem returning_orderly (n : Nat) : Orderly n Stmt.Fresh (plain returning) := by
  rw [plain_returning]
  refine (expect_orderly (by nofun)).bind fun start _ => (expression_orderly n).bind fun value fresh => ?_
  exact (expect_orderly (by nofun)).bind fun _ _ => .pure (.ret fresh)

mutual
theorem statement_orderly (n : Nat) : Orderly n Stmt.Fresh (plain statement) := by
  rw [plain_statement]
  apply peek_orderly
  intro t?
  unfold statementAt
  split
  · exact declaration_orderly n
  · exact conditional_orderly n
  · exact forEach_orderly n
  · exact whileLoop_orderly n
  · exact returning_orderly n
  · exact assignment_orderly n
termination_by (n, 1)
decreasing_by
  all_goals simp only [Prod.lex_def, true_and]
  all_goals omega

theorem conditional_orderly (n : Nat) :
    Orderly n Stmt.Fresh (plain conditional) := by
  rw [plain_conditional]
  refine (expect_orderly (by nofun)).after (plain_takes _) fun k less start _ => ?_
  refine (expression_orderly k).bind fun condition tested => (expect_orderly (by nofun)).bind fun _ _ => ?_
  refine (block_orderly ["ELSE", "END"] k).bind fun thenPart first => ?_
  apply take?_orderly
  · exact (expect_orderly (by nofun)).bind fun _ _ => .pure (.conditional tested first (List.forall_mem_nil _))
  · intro j less' _
    refine (block_orderly ["END"] j).bind fun elsePart second => ?_
    exact (expect_orderly (by nofun)).bind fun _ _ => .pure (.conditional tested first second)
termination_by (n, 0)
decreasing_by
  all_goals simp only [Prod.lex_def]
  all_goals omega

theorem forEach_orderly (n : Nat) : Orderly n Stmt.Fresh (plain forEach) := by
  rw [plain_forEach]
  refine (expect_orderly (by nofun)).after (plain_takes _) fun k less start _ => ?_
  refine (identifier_orderly (by nofun)).bind fun name _ => (expect_orderly (by nofun)).bind fun _ _ => ?_
  refine (expression_orderly k).bind fun iterable iterated => (expect_orderly (by nofun)).bind fun _ _ => ?_
  refine (block_orderly ["END"] k).bind fun body inside => ?_
  exact (expect_orderly (by nofun)).bind fun _ _ => .pure (.forEach iterated inside)
termination_by (n, 0)
decreasing_by
  all_goals simp only [Prod.lex_def]
  all_goals omega

theorem whileLoop_orderly (n : Nat) : Orderly n Stmt.Fresh (plain whileLoop) := by
  rw [plain_whileLoop]
  refine (expect_orderly (by nofun)).after (plain_takes _) fun k less start _ => ?_
  refine (expression_orderly k).bind fun condition tested => (expect_orderly (by nofun)).bind fun _ _ => ?_
  refine (block_orderly ["END"] k).bind fun body inside => ?_
  exact (expect_orderly (by nofun)).bind fun _ _ => .pure (.whileLoop tested inside)
termination_by (n, 0)
decreasing_by
  all_goals simp only [Prod.lex_def]
  all_goals omega

theorem block_orderly (stops : List String) (n : Nat) :
    Orderly n (fun ss : List Stmt => ∀ s ∈ ss, s.Fresh) (plain (block stops)) := by
  rw [plain_block]
  apply peek_orderly
  intro t?
  cases t? with
  | none => exact .refuse (by nofun)
  | some t =>
    dsimp only
    split
    next => exact .pure (List.forall_mem_nil _)
    next =>
      refine (statement_orderly n).after (plain_takes _) fun k less s fresh => ?_
      refine (block_orderly stops k).bind fun ss others => ?_
      exact .pure (List.forall_mem_cons.mpr ⟨fresh, others⟩)
termination_by (n, 2)
decreasing_by
  all_goals simp only [Prod.lex_def, true_and]
  all_goals omega
end

/-! ## Programs -/

theorem field_orderly (n : Nat) : Orderly n Field.Fresh (plain field) := by
  rw [plain_field]
  refine (expect_orderly (by nofun)).bind fun start _ => (identifier_orderly (by nofun)).bind fun name _ => ?_
  refine (expect_orderly (by nofun)).bind fun _ _ => (identifier_orderly (by nofun)).bind fun typeName _ => ?_
  refine (valueClause_orderly n).bind fun value fresh => ?_
  exact (expect_orderly (by nofun)).bind fun _ _ => .pure ⟨fresh, rfl⟩

theorem paramList_orderly (n : Nat) : Orderly n (fun _ => True) (plain paramList) := by
  rw [plain_paramList]
  refine (identifier_orderly (by nofun)).after (plain_takes _) fun k less name _ => ?_
  refine (expect_orderly (by nofun)).bind fun _ _ => (identifier_orderly (by nofun)).bind fun typeName _ => ?_
  apply take?_orderly
  · exact .pure trivial
  · exact fun j less' _ => (paramList_orderly j).bind fun params _ => .pure trivial
termination_by n
decreasing_by all_goals omega

theorem params_orderly (n : Nat) : Orderly n (fun _ => True) (plain params) := by
  rw [plain_params]
  apply nextIs_orderly
  intro closing
  cases closing with
  | true => exact .pure trivial
  | false => exact paramList_orderly n

theorem method_orderly (n : Nat) : Orderly n Method.Fresh (plain method) := by
  rw [plain_method]
  refine (expect_orderly (by nofun)).bind fun start _ => (identifier_orderly (by nofun)).bind fun name _ => ?_
  refine (expect_orderly (by nofun)).bind fun _ _ => (params_orderly n).bind fun params _ => ?_
  refine (expect_orderly (by nofun)).bind fun _ _ => (typeClause_orderly n).bind fun resultTypeName _ => ?_
  refine (expect_orderly (by nofun)).bind fun _ _ => (block_orderly ["END"] n).bind fun body fresh => ?_
  exact (expect_orderly (by nofun)).bind fun _ _ => .pure ⟨fresh, rfl⟩

theorem methods_orderly (n : Nat) :
    Orderly n (fun ms : List Method => ∀ m ∈ ms, m.Fresh) (whole methods) := by
  rw [whole_methods]
  apply peek_orderly
  intro t?
  cases t? with
  | none => exact .pure (List.forall_mem_nil _)
  | some t =>
    dsimp only
    split
    next => exact .refuse (by nofun)
    next =>
    split
    next =>
      refine (method_orderly n).after (plain_takes _) fun k less m fresh => ?_
      refine (methods_orderly k).bind fun ms others => ?_
      exact .pure (List.forall_mem_cons.mpr ⟨fresh, others⟩)
    next => exact .refuse (by nofun)
termination_by n
decreasing_by all_goals omega

theorem source_orderly (n : Nat) : Orderly n Source.Fresh (whole source) := by
  rw [whole_source]
  apply peek_orderly
  intro t?
  cases t? with
  | none => exact .pure ⟨List.forall_mem_nil _, List.forall_mem_nil _⟩
  | some t =>
    dsimp only
    split
    next =>
      refine (field_orderly n).after (plain_takes _) fun k less f fresh => ?_
      refine (source_orderly k).bind fun s others => ?_
      exact .pure ⟨List.forall_mem_cons.mpr ⟨fresh, others.fields⟩, others.methods⟩
    next => exact (methods_orderly n).bind fun ms fresh => .pure ⟨List.forall_mem_nil _, fresh⟩
termination_by n
decreasing_by all_goals omega

end Reading

/-! ## Texts -/

/-- That no integer literal of a text is too long to be read. -/
def Readable (text : List Char) : Prop :=
  ∀ tokens, lex text = .ok tokens → ∀ t ∈ tokens, t.Readable

/-- A text without integers that are too long is read as a fresh tree, or there is an error in it, and it is not
one of a character literal. -/
theorem parseText_orderly {text : List Char} (readable : Readable text) :
    match parseText text with
    | .ok s => s.Fresh
    | .error failure => ∃ e, failure = .error e ∧ e.issue ≠ .grammatical .characterLength := by
  unfold parseText
  cases lexed : lex text with
  | error e => exact ⟨_, rfl, nofun⟩
  | ok tokens =>
    have legible : Reading.Legible tokens :=
      fun t mem => ⟨lex_wellFormed lexed t mem, readable tokens lexed t mem⟩
    have ends := Reading.source_orderly tokens.length tokens le_rfl legible
    dsimp only [parseSource]
    unfold Reading.whole at ends
    match read : Reading.source tokens with
    | .ok s =>
      rw [read] at ends
      exact ends.1
    | .error (.unexpected issue rest) =>
      rw [read] at ends
      refine ⟨_, rfl, fun same => ends ?_⟩
      cases same
      rfl
    | .error (.unreadableInteger _) | .error .unreadableDecimal =>
      rw [read] at ends
      exact ends.elim

end Primer
