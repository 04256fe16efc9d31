import Primer.Grammar.Program
import Primer.Proofs.Outcome

/-!
# Readers without bounds

A reader gives a bound on the tokens that it leaves, which is why the readers end. What a reader takes and
what it says do not depend on the bound. Without it a reader is a computation with the tokens for its
state, and every reader is what its rule in the grammar says: the readers of the parts, one after the
other.

The equations below are all that later laws of readers know about them. Each such law is one about
computations, with a case for one reader after another and a case for each way in which a reader begins.
-/

namespace Primer.Reading

variable {α β : Type}

/-- A reading of tokens, without a bound on those that it leaves. -/
abbrev Reader (α : Type) : Type :=
  StateT (List Token) (Except ParseFailure) α

/-- What a reading came to, without the bound. -/
def unbounded {bound : Nat} (r : Except ParseFailure (Parsed bound α)) : Except ParseFailure (α × List Token) :=
  r.map fun p => (p.value, p.rest)

/-- A reader without its bound. -/
def plain {bound : List Token → Nat}
    (read : (ts : List Token) → Except ParseFailure (Parsed (bound ts) α)) : Reader α :=
  fun ts => unbounded (read ts)

/-- A reader of all tokens. -/
def whole (read : List Token → Except ParseFailure α) : Reader α :=
  fun ts => (read ts).map fun a => (a, [])

/-- Ends the reading at the next token. -/
def refuse (issue : ParseIssue) : Reader α :=
  fun ts => .error (.unexpected issue ts)

/-- The next token, which is left alone. -/
def peek : Reader (Option Token) :=
  fun ts => .ok (ts.head?, ts)

/-- Whether the next token, which is left alone, has this text. -/
def nextIs (text : String) : Reader Bool :=
  fun ts => .ok ((accept? text ts).isSome, ts)

/-- The next token if it has this text; it is left alone otherwise. -/
def take? (text : String) : Reader (Option Token) :=
  fun ts => match accept? text ts with
    | none => .ok (none, ts)
    | some p => .ok (some p.value, p.rest)

/-- The operator of a level that is next, if one is. -/
def takeOperator? (level : Level) : Reader (Option Operator) :=
  fun ts => match ts with
    | [] => .ok (none, [])
    | t :: rest =>
      match level.operator? t with
      | none => .ok (none, t :: rest)
      | some op => .ok (some op, rest)

/-- How a primary expression begins: with a literal, which is all of it, with a parenthesis, or with a
name. -/
inductive Opening where
  | value (e : Expr)
  | paren (offset : Nat)
  | name (text : String) (offset : Nat)

/-- The first token of a primary expression. -/
def opening : Reader Opening :=
  fun ts => match ts with
    | [] => .error (.unexpected .expression [])
    | t :: rest =>
      match literal? t rest with
      | some (.ok value) => .ok (.value (.literal value t.offset), rest)
      | some (.error failure) => .error failure
      | none =>
        if t.literal == "(" then .ok (.paren t.offset, rest)
        else if t.kind == .identifier then .ok (.name t.literal t.offset, rest)
        else .error (.unexpected .expression (t :: rest))

/-! ## One after the other -/

section

variable {bound : Nat} {ts : List Token} {text : String} {level : Level}

theorem bind_apply (m : Reader α) (f : α → Reader β) : (m >>= f) ts = m ts >>= fun p => f p.1 p.2 :=
  rfl

/-- A reader that goes on with another one, which may depend on what was read. -/
theorem plain_bind {bounds : List Token → Nat}
    {read : (ts : List Token) → Except ParseFailure (Parsed (bounds ts) α)}
    {next : Parsed (bounds ts) α → Except ParseFailure (Parsed bound β)} {f : α → Reader β}
    (same : ∀ a rest fewer, unbounded (next ⟨a, rest, fewer⟩) = f a rest) :
    unbounded (read ts >>= next) = (plain read >>= f) ts := by
  rw [bind_apply, plain]
  cases read ts with
  | error failure => rfl
  | ok p => exact same p.value p.rest p.fewer

/-- A reader that goes on with one of all tokens. -/
theorem whole_bind {bounds : List Token → Nat}
    {read : (ts : List Token) → Except ParseFailure (Parsed (bounds ts) α)}
    {next : Parsed (bounds ts) α → Except ParseFailure β} {f : α → Reader β}
    (same : ∀ a rest fewer, (next ⟨a, rest, fewer⟩).map (fun b => (b, [])) = f a rest) :
    (read ts >>= next).map (fun b => (b, [])) = (plain read >>= f) ts := by
  rw [bind_apply, plain]
  cases read ts with
  | error failure => rfl
  | ok p => exact same p.value p.rest p.fewer

theorem whole_last {read : List Token → Except ParseFailure α} {f : α → β} :
    (read ts >>= fun a => pure (f a)).map (fun b => (b, [])) = (whole read >>= fun a => pure (f a)) ts := by
  rw [bind_apply, whole]
  cases read ts <;> rfl

theorem plain_expect {issue : ParseIssue} (t : Token) (rest : List Token) :
    plain (expect text issue) (t :: rest) =
      if t.literal = text then .ok (t, rest) else .error (.unexpected issue (t :: rest)) := by
  by_cases is : t.literal = text <;> simp [plain, unbounded, expect, is, Except.map]

theorem plain_identifier {issue : ParseIssue} (t : Token) (rest : List Token) :
    plain (identifier issue) (t :: rest) =
      if t.kind = .identifier then .ok (t.literal, rest) else .error (.unexpected issue (t :: rest)) := by
  by_cases is : t.kind = .identifier <;> simp [plain, unbounded, identifier, is, Except.map]

theorem take?_bind (f : Option Token → Reader α) :
    (take? text >>= f) ts = match accept? text ts with
      | none => f none ts
      | some p => f (some p.value) p.rest := by
  rw [bind_apply, take?]
  cases accept? text ts <;> rfl

theorem takeOperator?_bind (f : Option Operator → Reader α) (t : Token) (rest : List Token) :
    (takeOperator? level >>= f) (t :: rest) = match level.operator? t with
      | none => f none (t :: rest)
      | some op => f (some op) rest := by
  rw [bind_apply, takeOperator?]
  cases level.operator? t <;> rfl

end

/-! ## Expressions -/

theorem plain_operation (level : Level) :
    plain (operation level) = (do
      let left ← plain (operand level)
      plain (operations level left)) := by
  funext ts
  rw [plain, operation]
  refine plain_bind fun left rest _ => ?_
  rw [plain]
  dsimp only
  cases operations level left rest <;> rfl

theorem plain_operand (level : Level) :
    plain (operand level) = match level with
      | .logical => plain (operation .comparison)
      | .comparison => plain (operation .additive)
      | .additive => plain (operation .multiplicative)
      | .multiplicative => plain secondary := by
  funext ts
  cases level <;> rw [plain, operand.eq_def] <;> rfl

theorem plain_operations (level : Level) (left : Expr) :
    plain (operations level left) = (do
      match ← takeOperator? level with
      | none => pure left
      | some op =>
        let right ← plain (operand level)
        plain (operations level (.binary op left right left.offset))) := by
  funext ts
  rw [plain, operations.eq_def]
  cases ts with
  | nil => rfl
  | cons t rest =>
    rw [takeOperator?_bind]
    dsimp only
    cases level.operator? t with
    | none => rfl
    | some op =>
      refine plain_bind fun right rest' _ => ?_
      rw [plain]
      dsimp only
      cases operations level (.binary op left right left.offset) rest' <;> rfl

theorem plain_secondary :
    plain secondary = (do
      let e ← plain primary
      plain (links e)) := by
  funext ts
  rw [plain, secondary]
  refine plain_bind fun e rest _ => ?_
  rw [plain]
  dsimp only
  cases links e rest <;> rfl

theorem plain_links (receiver : Expr) :
    plain (links receiver) = (do
      match ← take? "." with
      | none => pure receiver
      | some _ =>
        let name ← plain (identifier .identifier)
        match ← take? "(" with
        | none => plain (links (.field receiver name receiver.offset))
        | some _ =>
          let args ← plain arguments
          plain (links (.send receiver name args receiver.offset))) := by
  funext ts
  rw [plain, links, take?_bind]
  cases accept? "." ts with
  | none => rfl
  | some point =>
    refine plain_bind fun name rest _ => ?_
    rw [take?_bind]
    dsimp only
    cases accept? "(" rest with
    | none =>
      rw [plain]
      dsimp only
      cases links (.field receiver name receiver.offset) rest <;> rfl
    | some opened =>
      refine plain_bind fun args rest' _ => ?_
      rw [plain]
      dsimp only
      cases links (.send receiver name args receiver.offset) rest' <;> rfl

theorem plain_arguments :
    plain arguments = (do
      match ← take? ")" with
      | some _ => pure []
      | none => plain argumentList) := by
  funext ts
  rw [plain, arguments, take?_bind]
  cases accept? ")" ts <;> rfl

theorem plain_argumentList :
    plain argumentList = (do
      let e ← plain (operation .logical)
      match ← take? ")" with
      | some _ => pure [e]
      | none =>
        let _ ← plain (expect "," .commaOrParen)
        let es ← plain argumentList
        return e :: es) := by
  funext ts
  rw [plain, argumentList]
  refine plain_bind fun e rest _ => ?_
  rw [take?_bind]
  dsimp only
  cases accept? ")" rest with
  | some closing => rfl
  | none => exact plain_bind fun _ _ _ => plain_bind fun _ _ _ => rfl

theorem plain_primary :
    plain primary = (do
      match ← opening with
      | .value e => pure e
      | .paren offset =>
        let e ← plain (operation .logical)
        let _ ← plain (expect ")" .closeParen)
        return .group e offset
      | .name text offset =>
        match ← take? "(" with
        | none => return .ref text offset
        | some _ =>
          let args ← plain arguments
          return .call text args offset) := by
  funext ts
  rw [plain, primary.eq_def, bind_apply]
  cases ts with
  | nil => rfl
  | cons t rest =>
    dsimp only [opening]
    cases literal? t rest with
    | some value => cases value <;> rfl
    | none =>
      dsimp only
      split
      next =>
        rw [Except.ok_bind]
        exact plain_bind fun _ _ _ => plain_bind fun _ _ _ => rfl
      next =>
      split
      next =>
        rw [Except.ok_bind]
        dsimp only
        rw [take?_bind]
        cases accept? "(" rest with
        | none => rfl
        | some opened => exact plain_bind fun _ _ _ => rfl
      next => rfl

/-! ## Statements -/

theorem plain_typeClause :
    plain typeClause = (do
      match ← take? ":" with
      | none => return none
      | some _ =>
        let name ← plain (identifier .typeName)
        return some name) := by
  funext ts
  rw [plain, typeClause, take?_bind]
  cases accept? ":" ts with
  | none => rfl
  | some colon => exact plain_bind fun _ _ _ => rfl

theorem plain_valueClause :
    plain valueClause = (do
      match ← take? "=" with
      | none => return none
      | some _ =>
        let e ← plain expression
        return some e) := by
  funext ts
  rw [plain, valueClause, take?_bind]
  cases accept? "=" ts with
  | none => rfl
  | some equals => exact plain_bind fun _ _ _ => rfl

theorem plain_declaration :
    plain declaration = (do
      let start ← plain (expect "LET" (.word "LET"))
      let name ← plain (identifier .identifier)
      let typeName ← plain typeClause
      let initializer ← plain valueClause
      let _ ← plain (expect ";" .semicolon)
      return .declaration name typeName initializer start.offset) := by
  funext ts
  rw [plain, declaration]
  refine plain_bind fun start rest _ => plain_bind fun name rest _ => plain_bind fun typeName rest _ => ?_
  exact plain_bind fun initializer rest _ => plain_bind fun _ _ _ => rfl

theorem plain_assignment :
    plain assignment = (do
      let target ← plain expression
      let value ← plain valueClause
      let _ ← plain (expect ";" .semicolon)
      match value with
      | some value => return .assignment target value target.offset
      | none => return .expression target target.offset) := by
  funext ts
  rw [plain, assignment]
  refine plain_bind fun target rest _ => plain_bind fun value rest _ => plain_bind fun _ _ _ => ?_
  cases value <;> rfl

theorem plain_returning :
    plain returning = (do
      let start ← plain (expect "RETURN" (.word "RETURN"))
      let value ← plain expression
      let _ ← plain (expect ";" .semicolon)
      return .ret value start.offset) := by
  funext ts
  rw [plain, returning]
  exact plain_bind fun start rest _ => plain_bind fun value rest _ => plain_bind fun _ _ _ => rfl

/-- The reader of a statement whose first token has this text. -/
def statementAt (text : String) : Reader Stmt :=
  match text with
  | "LET" => plain declaration
  | "IF" => plain conditional
  | "FOR" => plain forEach
  | "WHILE" => plain whileLoop
  | "RETURN" => plain returning
  | _ => plain assignment

theorem plain_statement :
    plain statement = (do
      let t? ← peek
      statementAt ((t?.map Token.literal).getD "")) := by
  funext ts
  rw [plain, statement.eq_def]
  change _ = statementAt ((ts.head?.map Token.literal).getD "") ts
  unfold statementAt
  generalize (ts.head?.map Token.literal).getD "" = text
  split <;> simp [plain, *]

theorem plain_conditional :
    plain conditional = (do
      let start ← plain (expect "IF" (.word "IF"))
      let condition ← plain expression
      let _ ← plain (expect "DO" (.word "DO"))
      let thenPart ← plain (block ["ELSE", "END"])
      match ← take? "ELSE" with
      | none =>
        let _ ← plain (expect "END" (.word "END"))
        return .conditional condition thenPart [] start.offset
      | some _ =>
        let elsePart ← plain (block ["END"])
        let _ ← plain (expect "END" (.word "END"))
        return .conditional condition thenPart elsePart start.offset) := by
  funext ts
  rw [plain, conditional]
  refine plain_bind fun start rest _ => plain_bind fun condition rest _ => plain_bind fun _ rest _ => ?_
  refine plain_bind fun thenPart rest _ => ?_
  rw [take?_bind]
  dsimp only
  cases accept? "ELSE" rest with
  | none => exact plain_bind fun _ _ _ => rfl
  | some word => exact plain_bind fun elsePart rest _ => plain_bind fun _ _ _ => rfl

theorem plain_forEach :
    plain forEach = (do
      let start ← plain (expect "FOR" (.word "FOR"))
      let name ← plain (identifier .identifier)
      let _ ← plain (expect "IN" (.word "IN"))
      let iterable ← plain expression
      let _ ← plain (expect "DO" (.word "DO"))
      let body ← plain (block ["END"])
      let _ ← plain (expect "END" (.word "END"))
      return .forEach name iterable body start.offset) := by
  funext ts
  rw [plain, forEach]
  refine plain_bind fun start rest _ => plain_bind fun name rest _ => plain_bind fun _ rest _ => ?_
  refine plain_bind fun iterable rest _ => plain_bind fun _ rest _ => plain_bind fun body rest _ => ?_
  exact plain_bind fun _ _ _ => rfl

theorem plain_whileLoop :
    plain whileLoop = (do
      let start ← plain (expect "WHILE" (.word "WHILE"))
      let condition ← plain expression
      let _ ← plain (expect "DO" (.word "DO"))
      let body ← plain (block ["END"])
      let _ ← plain (expect "END" (.word "END"))
      return .whileLoop condition body start.offset) := by
  funext ts
  rw [plain, whileLoop]
  refine plain_bind fun start rest _ => plain_bind fun condition rest _ => plain_bind fun _ rest _ => ?_
  exact plain_bind fun body rest _ => plain_bind fun _ _ _ => rfl

theorem plain_block (stops : List String) :
    plain (block stops) = (do
      match ← peek with
      | none => refuse (.oneOf stops)
      | some t =>
        if t.literal ∈ stops then return []
        else
          let s ← plain statement
          let ss ← plain (block stops)
          return s :: ss) := by
  funext ts
  rw [plain, block.eq_def]
  cases ts with
  | nil => rfl
  | cons t rest =>
    change _ = (if t.literal ∈ stops then pure []
      else plain statement >>= fun s => plain (block stops) >>= fun ss => pure (s :: ss) : Reader (List Stmt))
        (t :: rest)
    dsimp only
    split
    next => rfl
    next => exact plain_bind fun _ _ _ => plain_bind fun _ _ _ => rfl

/-! ## Programs -/

theorem plain_field :
    plain field = (do
      let start ← plain (expect "LET" (.word "LET"))
      let name ← plain (identifier .identifier)
      let _ ← plain (expect ":" .colonAndType)
      let typeName ← plain (identifier .typeName)
      let initializer ← plain valueClause
      let _ ← plain (expect ";" .semicolon)
      return { name, typeName, initializer, offset := start.offset }) := by
  funext ts
  rw [plain, field]
  refine plain_bind fun start rest _ => plain_bind fun name rest _ => plain_bind fun _ rest _ => ?_
  exact plain_bind fun typeName rest _ => plain_bind fun initializer rest _ => plain_bind fun _ _ _ => rfl

theorem plain_paramList :
    plain paramList = (do
      let name ← plain (identifier .identifier)
      let _ ← plain (expect ":" .colonAndType)
      let typeName ← plain (identifier .typeName)
      match ← take? "," with
      | none => return [{ name, typeName }]
      | some _ =>
        let params ← plain paramList
        return { name, typeName } :: params) := by
  funext ts
  rw [plain, paramList]
  refine plain_bind fun name rest _ => plain_bind fun _ rest _ => plain_bind fun typeName rest _ => ?_
  rw [take?_bind]
  dsimp only
  cases accept? "," rest with
  | none => rfl
  | some comma => exact plain_bind fun _ _ _ => rfl

theorem plain_method :
    plain method = (do
      let start ← plain (expect "DEF" (.word "DEF"))
      let name ← plain (identifier .identifier)
      let _ ← plain (expect "(" .openParen)
      let params ← plain params
      let _ ← plain (expect ")" .commaOrParen)
      let resultTypeName ← plain typeClause
      let _ ← plain (expect "DO" (.word "DO"))
      let body ← plain (block ["END"])
      let _ ← plain (expect "END" (.word "END"))
      return { name, params, resultTypeName, body, offset := start.offset }) := by
  funext ts
  rw [plain, method]
  refine plain_bind fun start rest _ => plain_bind fun name rest _ => plain_bind fun _ rest _ => ?_
  refine plain_bind fun params rest _ => plain_bind fun _ rest _ => plain_bind fun result rest _ => ?_
  exact plain_bind fun _ rest _ => plain_bind fun body rest _ => plain_bind fun _ _ _ => rfl

theorem plain_params :
    plain params = (do
      if ← nextIs ")" then return []
      else plain paramList) := by
  funext ts
  rw [plain, params]
  change _ = (if (accept? ")" ts).isSome then pure [] else plain paramList : Reader (List Param)) ts
  cases accept? ")" ts with
  | some closing => rfl
  | none =>
    change unbounded (paramList ts >>= _) = unbounded (paramList ts)
    cases paramList ts <;> rfl

theorem whole_methods :
    whole methods = (do
      match ← peek with
      | none => return []
      | some t =>
        if t.literal == "LET" then refuse .fieldAfterMethod
        else if t.literal == "DEF" then
          let m ← plain method
          let ms ← whole methods
          return m :: ms
        else refuse .fieldOrMethod) := by
  funext ts
  rw [whole, methods.eq_def]
  cases ts with
  | nil => rfl
  | cons t rest =>
    change _ = (if t.literal == "LET" then refuse .fieldAfterMethod
      else if t.literal == "DEF" then plain method >>= fun m => whole methods >>= fun ms => pure (m :: ms)
      else refuse .fieldOrMethod : Reader (List Method)) (t :: rest)
    dsimp only
    split
    next => rfl
    next =>
    split
    next => exact whole_bind fun _ _ _ => whole_last
    next => rfl

theorem whole_source :
    whole source = (do
      match ← peek with
      | none => return { fields := [], methods := [] }
      | some t =>
        if t.literal == "LET" then
          let f ← plain field
          let s ← whole source
          return { s with fields := f :: s.fields }
        else
          let ms ← whole methods
          return { fields := [], methods := ms }) := by
  funext ts
  rw [whole, source.eq_def]
  cases ts with
  | nil => rfl
  | cons t rest =>
    change _ = (if t.literal == "LET" then plain field >>= fun f => whole source >>= fun s =>
        pure { s with fields := f :: s.fields }
      else whole methods >>= fun ms => pure { fields := [], methods := ms } : Reader Source) (t :: rest)
    dsimp only
    split
    next => exact whole_bind fun _ _ _ => whole_last
    next => exact whole_last

end Primer.Reading
