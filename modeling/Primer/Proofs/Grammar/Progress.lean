import Primer.Grammar.Rule
import Primer.Proofs.Grammar.Lookahead

/-!
# Readings make progress

Every rule ends on every list of tokens, whatever their kinds, texts and offsets. A phrase that was read leaves an end
of the tokens that is shorter than they were, and a whole program leaves nothing.

The rules repeat some of their parts. Such a loop is made of turns: a turn ends the loop, or the loop goes on with what
the turn has left. `IsLoop` says of a reader that it comes out as its turns do, one after the other, and that a turn
after which the loop goes on has taken a token. That is why there are only finitely many turns
(`IsLoop.of_unfolds`), and all that has to be shown of each loop is how it goes on after one turn and what that turn
takes.

**The law** (`readings_make_progress`) puts both together for all rules and all loops.
-/

namespace Primer

namespace Reading

variable {α β γ σ : Type}

/-! ## What is left -/

/-- That a reading has left an end of the tokens, and taken at least one. -/
def Consumes (ts rest : List Token) : Prop :=
  ∃ taken ≠ [], ts = taken ++ rest

variable {ts mid rest : List Token}

theorem consumes_iff : Consumes ts rest ↔ rest <:+ ts ∧ rest.length < ts.length := by
  constructor
  · rintro ⟨taken, some, rfl⟩
    have positive := List.length_pos_iff.mpr some
    exact ⟨List.suffix_append taken rest, by rw [List.length_append]; omega⟩
  · rintro ⟨⟨taken, rfl⟩, fewer⟩
    refine ⟨taken, ?_, rfl⟩
    rintro rfl
    exact Nat.lt_irrefl _ fewer

theorem Consumes.trans_suffix (first : Consumes ts mid) (second : rest <:+ mid) : Consumes ts rest := by
  obtain ⟨suffix, fewer⟩ := consumes_iff.mp first
  exact consumes_iff.mpr ⟨second.trans suffix, Nat.lt_of_le_of_lt second.length_le fewer⟩

theorem bind_eq_ok {m : Reader α} {f : α → Reader β} {b : β} (read : (m >>= f) ts = .ok (b, rest)) :
    ∃ a mid, m ts = .ok (a, mid) ∧ f a mid = .ok (b, rest) := by
  obtain ⟨⟨a, mid⟩, first, second⟩ := Except.bind_eq_ok_iff.mp read
  exact ⟨a, mid, first, second⟩

theorem pure_eq_ok {a b : α} (read : (pure a : Reader α) ts = .ok (b, rest)) : a = b ∧ ts = rest :=
  Prod.mk.inj (Except.ok.inj read)

/-- That a reader leaves an end of the tokens. -/
def LeavesEnd (m : Reader α) : Prop :=
  ∀ ts a rest, m ts = .ok (a, rest) → rest <:+ ts

/-- That a reader takes at least one token, and leaves the others. -/
def TakesSome (m : Reader α) : Prop :=
  ∀ ts a rest, m ts = .ok (a, rest) → Consumes ts rest

namespace LeavesEnd

theorem of_tracks {view : α → γ} {m : Reader α} (tracks : ∀ n, Tracks n view m m) : LeavesEnd m := by
  intro ts a rest read
  exact (tracks ts.length).leaves ts le_rfl rest (by rw [read]; rfl)

theorem pure (a : α) : LeavesEnd (Pure.pure a) := by
  intro ts b rest read
  rw [(pure_eq_ok read).2]

theorem bind {m : Reader α} {f : α → Reader β} (first : LeavesEnd m) (others : ∀ a, LeavesEnd (f a)) :
    LeavesEnd (m >>= f) := by
  intro ts b rest read
  obtain ⟨a, mid, start, finish⟩ := bind_eq_ok read
  exact (others a mid b rest finish).trans (first ts a mid start)

end LeavesEnd

namespace TakesSome

/-- A reader of a phrase takes a token whatever it reads. -/
theorem of_tracks {read : (ts : List Token) → Except ParseFailure (Parsed ts.length α)} {view : α → γ}
    (tracks : ∀ n, Tracks n view (plain read) (plain read)) : TakesSome (plain read) := by
  intro ts a rest isRead
  exact consumes_iff.mpr ⟨LeavesEnd.of_tracks tracks ts a rest isRead, plain_takes read ts a rest isRead⟩

theorem bind {m : Reader α} {f : α → Reader β} (first : TakesSome m) (others : ∀ a, LeavesEnd (f a)) :
    TakesSome (m >>= f) := by
  intro ts b rest read
  obtain ⟨a, mid, start, finish⟩ := bind_eq_ok read
  exact (first ts a mid start).trans_suffix (others a mid b rest finish)

end TakesSome

/-! ## Loops -/

/-- How a turn of a loop comes out: the loop ends, or it goes on. -/
inductive Turn (σ α : Type) where
  | done (a : α)
  | again (s : σ)

/-- How a loop comes out, turn after turn, that begins in a state and with some tokens. -/
inductive Loops (turn : σ → Reader (Turn σ α)) : σ → List Token → Except ParseFailure (α × List Token) → Prop
  | fail {s : σ} {ts : List Token} {failure : ParseFailure} (ends : turn s ts = .error failure) :
      Loops turn s ts (.error failure)
  | done {s : σ} {ts rest : List Token} {a : α} (ends : turn s ts = .ok (.done a, rest)) :
      Loops turn s ts (.ok (a, rest))
  | again {s s' : σ} {ts rest : List Token} {r : Except ParseFailure (α × List Token)}
      (goesOn : turn s ts = .ok (.again s', rest)) (later : Loops turn s' rest r) : Loops turn s ts r

/-- That a reader comes out as the turns of a loop do that begins in a state, and that each turn after which the loop
goes on takes a token. -/
structure IsLoop (turn : σ → Reader (Turn σ α)) (start : σ) (reader : Reader α) : Prop where
  outcome : ∀ ts r, Loops turn start ts r ↔ reader ts = r
  progress : ∀ s ts s' rest, turn s ts = .ok (.again s', rest) → Consumes ts rest

/-- That a turn takes a token whenever the loop goes on after it. -/
def Progresses (m : Reader (Turn σ α)) : Prop :=
  ∀ ts s rest, m ts = .ok (.again s, rest) → Consumes ts rest

namespace Progresses

theorem of_takesSome {m : Reader (Turn σ α)} (takes : TakesSome m) : Progresses m := by
  intro ts s rest read
  exact takes ts _ rest read

theorem done (a : α) : Progresses (pure (.done a) : Reader (Turn σ α)) := by
  intro ts s rest read
  exact nomatch (pure_eq_ok read).1

theorem refuse (issue : ParseIssue) : Progresses (Reading.refuse issue : Reader (Turn σ α)) := by
  intro ts s rest read
  exact nomatch read

theorem bind {m : Reader β} {f : β → Reader (Turn σ α)} (first : LeavesEnd m) (others : ∀ b, Progresses (f b)) :
    Progresses (m >>= f) := by
  intro ts s rest read
  obtain ⟨b, mid, start, finish⟩ := bind_eq_ok read
  obtain ⟨suffix, fewer⟩ := consumes_iff.mp (others b mid s rest finish)
  have shorter := first ts b mid start
  exact consumes_iff.mpr ⟨suffix.trans shorter, Nat.lt_of_lt_of_le fewer shorter.length_le⟩

end Progresses

/-- What a loop does after a turn. -/
def Turn.follow (loop : σ → Reader α) : Turn σ α → Reader α
  | done a => pure a
  | again s => loop s

/-- A reader that does what it does by a turn, and goes on after it as the turn says, is a loop. -/
theorem IsLoop.of_unfolds {turn : σ → Reader (Turn σ α)} {loop : σ → Reader α}
    (unfolds : ∀ s, loop s = turn s >>= Turn.follow loop) (progress : ∀ s, Progresses (turn s)) (start : σ) :
    IsLoop turn start (loop start) where
  outcome ts r := by
    constructor
    · intro loops
      induction loops with
      | fail ends =>
        rw [unfolds, bind_apply, ends]
        rfl
      | done ends =>
        rw [unfolds, bind_apply, ends]
        rfl
      | again goesOn _ ih =>
        rw [unfolds, bind_apply, goesOn]
        exact ih
    · rintro rfl
      -- By the number of tokens that are left, which each turn that goes on makes smaller.
      induction n : ts.length using Nat.strongRecOn generalizing start ts with
      | ind n ih =>
        rw [unfolds, bind_apply]
        match ends : turn start ts with
        | .error failure => exact .fail ends
        | .ok (.done a, rest) => exact .done ends
        | .ok (.again s', rest) =>
          have fewer := (consumes_iff.mp (progress start ts s' rest ends)).2
          exact .again ends (ih rest.length (n ▸ fewer) s' rest rfl)
  progress := progress

/-! ## The loops of the rules -/

/-- A reader of the rest of a list of which a part was read. -/
def onto (xs : List α) (m : Reader (List α)) : Reader (List α) := do
  let others ← m
  return xs ++ others

theorem onto_nil (m : Reader (List α)) : onto [] m = m :=
  bind_pure m

theorem onto_bind (xs : List α) (m : Reader β) (f : β → Reader (List α)) :
    onto xs (m >>= f) = m >>= fun b => onto xs (f b) :=
  bind_assoc m f _

theorem onto_pure (xs ys : List α) : onto xs (pure ys) = pure (xs ++ ys) :=
  pure_bind ys _

theorem onto_cons (xs : List α) (x : α) (m : Reader (List α)) :
    onto xs (m >>= fun others => pure (x :: others)) = onto (xs ++ [x]) m := by
  simp only [onto, bind_assoc, pure_bind, List.append_assoc, List.singleton_append]

/-- A turn of a program: a field or a method, as the next token says. -/
def sourceTurn (s : Source) : Reader (Turn Source Source) := do
  match ← peek with
  | none => return .done s
  | some t =>
    if t.literal == "LET" then
      if s.methods.isEmpty then
        let f ← plain field
        return .again { s with fields := s.fields ++ [f] }
      else refuse .fieldAfterMethod
    else if t.literal == "DEF" then
      let m ← plain method
      return .again { s with methods := s.methods ++ [m] }
    else refuse .fieldOrMethod

/-- The rest of a program of which a part was read. After a method there are methods only. -/
def sourceFrom (s : Source) : Reader Source :=
  if s.methods.isEmpty then do
    let others ← whole source
    return { others with fields := s.fields ++ others.fields }
  else do
    let others ← whole methods
    return { s with methods := s.methods ++ others }

/-- A turn of a list of parameters: one of them. -/
def paramTurn (ps : List Param) : Reader (Turn (List Param) (List Param)) := do
  let name ← plain (identifier .identifier)
  let _ ← plain (expect ":" .colonAndType)
  let typeName ← plain (identifier .typeName)
  match ← take? "," with
  | none => return .done (ps ++ [⟨name, typeName⟩])
  | some _ => return .again (ps ++ [⟨name, typeName⟩])

/-- A turn of a block: a statement, unless a word is next that ends the block. -/
def statementTurn (stops : List String) (ss : List Stmt) : Reader (Turn (List Stmt) (List Stmt)) := do
  match ← peek with
  | none => refuse (.oneOf stops)
  | some t =>
    if t.literal ∈ stops then return .done ss
    else
      let s ← plain statement
      return .again (ss ++ [s])

/-- A turn of an operation: an operator of the level, if one is next, and its right operand. -/
def operatorTurn (level : Level) (left : Expr) : Reader (Turn Expr Expr) := do
  match ← takeOperator? level with
  | none => return .done left
  | some op =>
    let right ← plain (operand level)
    return .again (.binary op left right left.offset)

/-- A turn of a chain: a point, if one is next, and a field or a call. -/
def linkTurn (receiver : Expr) : Reader (Turn Expr Expr) := do
  match ← take? "." with
  | none => return .done receiver
  | some _ =>
    let name ← plain (identifier .identifier)
    match ← take? "(" with
    | none => return .again (.field receiver name receiver.offset)
    | some _ =>
      let args ← plain arguments
      return .again (.send receiver name args receiver.offset)

/-- A turn of a list of arguments: one of them, and a parenthesis or a comma. -/
def argumentTurn (es : List Expr) : Reader (Turn (List Expr) (List Expr)) := do
  let e ← plain (operation .logical)
  match ← take? ")" with
  | some _ => return .done (es ++ [e])
  | none =>
    let _ ← plain (expect "," .commaOrParen)
    return .again (es ++ [e])

theorem peek_bind_nil (f : Option Token → Reader α) : (peek >>= f) [] = f none [] :=
  rfl

theorem peek_bind_cons (f : Option Token → Reader α) (t : Token) (ts : List Token) :
    (peek >>= f) (t :: ts) = f (some t) (t :: ts) :=
  rfl

theorem sourceFrom_of_fields (fs : List Field) :
    sourceFrom ⟨fs, []⟩ = do
      let others ← whole source
      return { others with fields := fs ++ others.fields } :=
  rfl

theorem sourceFrom_of_methods (fs : List Field) (m : Method) (ms : List Method) :
    sourceFrom ⟨fs, m :: ms⟩ = do
      let others ← whole methods
      return ⟨fs, m :: ms ++ others⟩ :=
  rfl

theorem unfolds_fields (fs : List Field) :
    sourceFrom ⟨fs, []⟩ = sourceTurn ⟨fs, []⟩ >>= Turn.follow sourceFrom := by
  funext ts
  rw [sourceFrom_of_fields, whole_source, bind_assoc, sourceTurn, bind_assoc]
  cases ts with
  | nil => simp only [peek_bind_nil, pure_bind, Turn.follow, List.append_nil]
  | cons t rest =>
    rw [peek_bind_cons, peek_bind_cons]
    dsimp only
    by_cases isLet : t.literal == "LET"
    · rw [if_pos isLet, if_pos isLet]
      simp only [List.isEmpty_nil, if_true, bind_assoc, pure_bind, Turn.follow, sourceFrom_of_fields, List.append_assoc,
        List.singleton_append]
    · rw [if_neg isLet, if_neg isLet, whole_methods, bind_assoc, bind_assoc, peek_bind_cons]
      dsimp only
      rw [if_neg isLet]
      by_cases isDef : t.literal == "DEF"
      · rw [if_pos isDef, if_pos isDef]
        simp only [bind_assoc, pure_bind, Turn.follow, sourceFrom_of_methods, List.append_nil, List.nil_append,
          List.singleton_append]
      · rw [if_neg isDef, if_neg isDef]
        rfl

theorem unfolds_methods (fs : List Field) (m : Method) (ms : List Method) :
    sourceFrom ⟨fs, m :: ms⟩ = sourceTurn ⟨fs, m :: ms⟩ >>= Turn.follow sourceFrom := by
  funext ts
  rw [sourceFrom_of_methods, whole_methods, bind_assoc, sourceTurn, bind_assoc]
  cases ts with
  | nil => simp only [peek_bind_nil, pure_bind, Turn.follow, List.append_nil]
  | cons t rest =>
    rw [peek_bind_cons, peek_bind_cons]
    dsimp only
    by_cases isLet : t.literal == "LET"
    · rw [if_pos isLet, if_pos isLet, if_neg (by simp)]
      rfl
    · rw [if_neg isLet, if_neg isLet]
      by_cases isDef : t.literal == "DEF"
      · rw [if_pos isDef, if_pos isDef]
        simp only [bind_assoc, pure_bind, Turn.follow, List.cons_append, sourceFrom_of_methods, List.append_assoc,
          List.nil_append]
      · rw [if_neg isDef, if_neg isDef]
        rfl

theorem unfolds_source : ∀ s : Source, sourceFrom s = sourceTurn s >>= Turn.follow sourceFrom
  | ⟨fs, []⟩ => unfolds_fields fs
  | ⟨fs, m :: ms⟩ => unfolds_methods fs m ms

theorem unfolds_params (ps : List Param) :
    onto ps (plain paramList) = paramTurn ps >>= Turn.follow fun ps => onto ps (plain paramList) := by
  conv => lhs; rw [plain_paramList]
  simp only [paramTurn, bind_assoc, onto_bind]
  congr! 8 with name _ typeName comma?
  cases comma? with
  | none => rw [onto_pure, pure_bind, Turn.follow]
  | some comma => rw [onto_cons, pure_bind, Turn.follow]

theorem unfolds_block (stops : List String) (ss : List Stmt) :
    onto ss (plain (block stops)) = statementTurn stops ss >>= Turn.follow fun ss => onto ss (plain (block stops)) := by
  conv => lhs; rw [plain_block]
  simp only [statementTurn, bind_assoc, onto_bind]
  congr! 2 with t?
  cases t? with
  | none => rfl
  | some t =>
    dsimp only
    split
    next => rw [onto_pure, pure_bind, Turn.follow, List.append_nil]
    next =>
      simp only [onto_bind (β := Stmt), bind_assoc, pure_bind, Turn.follow, onto_cons]

theorem unfolds_operations (level : Level) (left : Expr) :
    plain (operations level left) =
      operatorTurn level left >>= Turn.follow fun left => plain (operations level left) := by
  conv => lhs; rw [plain_operations]
  simp only [operatorTurn, bind_assoc]
  congr! 2 with op?
  cases op? with
  | none => rw [pure_bind, Turn.follow]
  | some op => simp only [bind_assoc, pure_bind, Turn.follow]

theorem unfolds_links (receiver : Expr) :
    plain (links receiver) = linkTurn receiver >>= Turn.follow fun receiver => plain (links receiver) := by
  conv => lhs; rw [plain_links]
  simp only [linkTurn, bind_assoc]
  congr! 2 with point?
  cases point? with
  | none => rw [pure_bind, Turn.follow]
  | some point =>
    simp only [bind_assoc]
    congr! 4 with name opened?
    cases opened? with
    | none => rw [pure_bind, Turn.follow]
    | some opened => simp only [bind_assoc, pure_bind, Turn.follow]

theorem unfolds_arguments (es : List Expr) :
    onto es (plain argumentList) = argumentTurn es >>= Turn.follow fun es => onto es (plain argumentList) := by
  conv => lhs; rw [plain_argumentList]
  simp only [argumentTurn, bind_assoc, onto_bind]
  congr! 4 with e closed?
  cases closed? with
  | some closed => rw [onto_pure, pure_bind, Turn.follow]
  | none => simp only [onto_bind (β := Token), bind_assoc, pure_bind, Turn.follow, onto_cons]

theorem progresses_source (s : Source) : Progresses (sourceTurn s) := by
  refine .bind (.of_tracks fun _ => peek_tracks) fun t? => ?_
  cases t? with
  | none => exact .done s
  | some t =>
    dsimp only
    split
    next =>
      split
      next => exact .of_takesSome (.bind (.of_tracks field_tracks) fun f => .pure _)
      next => exact .refuse _
    next =>
      split
      next => exact .of_takesSome (.bind (.of_tracks method_tracks) fun m => .pure _)
      next => exact .refuse _

theorem progresses_params (ps : List Param) : Progresses (paramTurn ps) := by
  refine .of_takesSome (.bind (.of_tracks fun _ => identifier_tracks) fun name => ?_)
  refine .bind (.of_tracks fun _ => expect_tracks (by decide)) fun colon => ?_
  refine .bind (.of_tracks fun _ => identifier_tracks) fun typeName => ?_
  refine .bind (.of_tracks fun _ => take?_tracks (by decide)) fun comma? => ?_
  cases comma? <;> exact .pure _

theorem progresses_block (stops : List String) (ss : List Stmt) : Progresses (statementTurn stops ss) := by
  refine .bind (.of_tracks fun _ => peek_tracks) fun t? => ?_
  cases t? with
  | none => exact .refuse _
  | some t =>
    dsimp only
    split
    next => exact .done ss
    next => exact .of_takesSome (.bind (.of_tracks statement_tracks) fun s => .pure _)

theorem progresses_operations (level : Level) (left : Expr) : Progresses (operatorTurn level left) := by
  refine .bind (.of_tracks fun _ => takeOperator?_tracks) fun op? => ?_
  cases op? with
  | none => exact .done left
  | some op => exact .of_takesSome (.bind (.of_tracks (operand_tracks level)) fun right => .pure _)

theorem progresses_links (receiver : Expr) : Progresses (linkTurn receiver) := by
  refine .bind (.of_tracks fun _ => take?_tracks (by decide)) fun point? => ?_
  cases point? with
  | none => exact .done receiver
  | some point =>
    refine .of_takesSome (.bind (.of_tracks fun _ => identifier_tracks) fun name => ?_)
    refine .bind (.of_tracks fun _ => take?_tracks (by decide)) fun opened? => ?_
    cases opened? with
    | none => exact .pure _
    | some opened => exact .bind (.of_tracks arguments_tracks) fun args => .pure _

theorem progresses_arguments (es : List Expr) : Progresses (argumentTurn es) := by
  refine .of_takesSome (.bind (.of_tracks (operation_tracks .logical)) fun e => ?_)
  refine .bind (.of_tracks fun _ => take?_tracks (by decide)) fun closed? => ?_
  cases closed? with
  | some closed => exact .pure _
  | none => exact .bind (.of_tracks fun _ => expect_tracks (by decide)) fun comma => .pure _

theorem eq_nil_of_whole {read : List Token → Except ParseFailure α} {a : α} (isRead : whole read ts = .ok (a, rest)) :
    rest = [] := by
  obtain ⟨a', -, same⟩ := Except.map_eq_ok_iff.mp isRead
  cases same
  rfl

theorem isLoop_source : IsLoop sourceTurn ⟨[], []⟩ (whole source) := by
  have same : sourceFrom ⟨[], []⟩ = whole source := bind_pure _
  exact same ▸ .of_unfolds unfolds_source progresses_source _

/-- The turns of a program go on to the end of the tokens. -/
theorem eq_nil_of_loops_source {s : Source} (loops : Loops sourceTurn ⟨[], []⟩ ts (.ok (s, rest))) : rest = [] :=
  eq_nil_of_whole ((isLoop_source.outcome ts _).mp loops)

theorem isLoop_paramList : IsLoop paramTurn [] (plain paramList) :=
  onto_nil (plain paramList) ▸ .of_unfolds unfolds_params progresses_params []

theorem isLoop_block (stops : List String) : IsLoop (statementTurn stops) [] (plain (block stops)) :=
  onto_nil (plain (block stops)) ▸ .of_unfolds (unfolds_block stops) (progresses_block stops) []

theorem isLoop_argumentList : IsLoop argumentTurn [] (plain argumentList) :=
  onto_nil (plain argumentList) ▸ .of_unfolds unfolds_arguments progresses_arguments []

end Reading

/-! ## The rules -/

namespace Rule

open Reading

/-- The reader of a rule, which leaves the tokens after the phrase. -/
def reader : Rule → Reader Phrase
  | source => do return .source (← whole Reading.source)
  | field => do return .field (← plain Reading.field)
  | method => do return .method (← plain Reading.method)
  | statement => do return .stmt (← plain Reading.statement)
  | declaration => do return .stmt (← plain Reading.declaration)
  | assignment => do return .stmt (← plain Reading.assignment)
  | conditional => do return .stmt (← plain Reading.conditional)
  | forEach => do return .stmt (← plain Reading.forEach)
  | whileLoop => do return .stmt (← plain Reading.whileLoop)
  | returning => do return .stmt (← plain Reading.returning)
  | operation level => do return .expr (← plain (Reading.operation level))
  | secondary => do return .expr (← plain Reading.secondary)
  | primary => do return .expr (← plain Reading.primary)

theorem counted_eq {α : Type} (read : (ts : List Token) → Except ParseFailure (Parsed ts.length α))
    (phrase : α → Phrase) (ts : List Token) :
    counted ts phrase (read ts) =
      ((plain read >>= fun a => pure (phrase a) : Reader Phrase) ts).map fun r => (r.1, ts.length - r.2.length) := by
  rw [counted, bind_apply, plain]
  cases read ts <;> rfl

theorem read_eq (rule : Rule) (ts : List Token) :
    rule.read ts = (rule.reader ts).map fun r => (r.1, ts.length - r.2.length) := by
  cases rule with
  | source =>
    rw [read, reader, bind_apply, whole]
    cases Reading.source ts <;> rfl
  | _ => exact counted_eq _ _ ts

theorem reader_takesSome {rule : Rule} (part : rule ≠ .source) : TakesSome rule.reader := by
  cases rule with
  | source => exact absurd rfl part
  | field => exact .bind (.of_tracks field_tracks) fun f => .pure _
  | method => exact .bind (.of_tracks method_tracks) fun m => .pure _
  | statement => exact .bind (.of_tracks statement_tracks) fun s => .pure _
  | declaration => exact .bind (.of_tracks declaration_tracks) fun s => .pure _
  | assignment => exact .bind (.of_tracks assignment_tracks) fun s => .pure _
  | conditional => exact .bind (.of_tracks conditional_tracks) fun s => .pure _
  | forEach => exact .bind (.of_tracks forEach_tracks) fun s => .pure _
  | whileLoop => exact .bind (.of_tracks whileLoop_tracks) fun s => .pure _
  | returning => exact .bind (.of_tracks returning_tracks) fun s => .pure _
  | operation level => exact .bind (.of_tracks (operation_tracks level)) fun e => .pure _
  | secondary => exact .bind (.of_tracks secondary_tracks) fun e => .pure _
  | primary => exact .bind (.of_tracks primary_tracks) fun e => .pure _

theorem reader_source {ts rest : List Token} {phrase : Phrase} (read : reader .source ts = .ok (phrase, rest)) :
    rest = [] := by
  obtain ⟨s, mid, isWhole, last⟩ := bind_eq_ok read
  rw [← (pure_eq_ok last).2, eq_nil_of_whole isWhole]

/-- How a rule comes out on tokens from an index on: it fails, or it takes some tokens for a phrase and leaves the
others. For a whole program it takes all of them. -/
def Advances (rule : Rule) (tokens : List Token) (start : Nat) : Prop :=
  (∃ failure, rule.read (tokens.drop start) = .error failure) ∨
  ∃ phrase count,
    rule.read (tokens.drop start) = .ok (phrase, count) ∧
    rule.reader (tokens.drop start) = .ok (phrase, tokens.drop (start + count)) ∧
    if rule = .source then start ≤ tokens.length → start + count = tokens.length
    else start < start + count ∧ start + count ≤ tokens.length

theorem advances_of_reader {rule : Rule} {tokens rest : List Token} {start : Nat} {phrase : Phrase}
    (part : rule ≠ .source) (read : rule.reader (tokens.drop start) = .ok (phrase, rest)) :
    rule.Advances tokens start := by
  obtain ⟨taken, some, split⟩ := reader_takesSome part _ _ _ read
  have positive := List.length_pos_iff.mpr some
  have lengths := congrArg List.length split
  rw [List.length_drop, List.length_append] at lengths
  have left : tokens.drop (start + taken.length) = rest := by
    rw [← List.drop_drop, split, List.drop_left]
  refine .inr ⟨phrase, taken.length, ?_, by rw [read, left], ?_⟩
  · rw [read_eq, read, split, Except.map, List.length_append, Nat.add_sub_cancel_right]
  · rw [if_neg part]
    omega

theorem advances_of_source {tokens rest : List Token} {start : Nat} {phrase : Phrase}
    (read : reader .source (tokens.drop start) = .ok (phrase, rest)) : Advances .source tokens start := by
  obtain rfl := reader_source read
  have left : tokens.drop (start + (tokens.length - start)) = [] := List.drop_eq_nil_of_le (by omega)
  refine .inr ⟨phrase, tokens.length - start, ?_, by rw [read, left], ?_⟩
  · rw [read_eq, read, Except.map, List.length_drop]
    rfl
  · rw [if_pos rfl]
    omega

theorem advances (rule : Rule) (tokens : List Token) (start : Nat) : rule.Advances tokens start := by
  match read : rule.reader (tokens.drop start) with
  | .error failure => exact .inl ⟨failure, by rw [read_eq, read]; rfl⟩
  | .ok (phrase, rest) =>
    by_cases whole : rule = .source
    · subst whole
      exact advances_of_source read
    · exact advances_of_reader whole read

end Rule

namespace Reading

/-- Readings make progress: from every index of all tokens, every rule fails or goes on to a later index, and a program
goes up to the end. All that the rules repeat is read in finitely many turns, and every turn but the last takes a
token. -/
theorem readings_make_progress :
    (∀ (rule : Rule) (tokens : List Token) (start : Nat), rule.Advances tokens start) ∧
    IsLoop sourceTurn ⟨[], []⟩ (whole source) ∧
    (∀ tokens s rest, Loops sourceTurn ⟨[], []⟩ tokens (.ok (s, rest)) → rest = []) ∧
    IsLoop paramTurn [] (plain paramList) ∧
    (∀ stops, IsLoop (statementTurn stops) [] (plain (block stops))) ∧
    (∀ level left, IsLoop (operatorTurn level) left (plain (operations level left))) ∧
    (∀ receiver, IsLoop linkTurn receiver (plain (links receiver))) ∧
    IsLoop argumentTurn [] (plain argumentList) :=
  ⟨Rule.advances, isLoop_source, fun _ _ _ => eq_nil_of_loops_source, isLoop_paramList, isLoop_block,
    fun level => .of_unfolds (unfolds_operations level) (progresses_operations level),
    .of_unfolds unfolds_links progresses_links, isLoop_argumentList⟩

/-- Tokens are told by their texts where a rule asks for a text, whatever their kinds: here a call of four tokens ends
at a number, and the fifth is left. -/
example :
    Rule.expression.read [⟨.identifier, "f", 3⟩, ⟨.other "odd", "(", 3⟩, ⟨.string, "TRUE", 0⟩, ⟨.decimal, ")", 1⟩,
      ⟨.string, "LET", 1⟩] = .ok (.expr (.call "f" [.literal (.bool true) 0] 3), 4) := by
  cbv

end Reading

end Primer
