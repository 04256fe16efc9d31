import Primer.Grammar.Parsed
import Primer.Text.Escape
import Primer.Tree

/-!
# Reading expressions

    logical        ::= comparison ((AND | OR) comparison)*
    comparison     ::= additive (('<' | '<=' | '>' | '>=' | '==' | '!=') additive)*
    additive       ::= multiplicative (('+' | '-') multiplicative)*
    multiplicative ::= secondary (('*' | '/') secondary)*
    secondary      ::= primary ('.' name ('(' arguments? ')')?)*
    primary        ::= NIL | TRUE | FALSE | integer | decimal | character | string
                     | '(' logical ')' | name ('(' arguments? ')')?

Operations of one level group to the left, as do chains of fields and calls, and such a phrase has the
offset of its leftmost operand.
-/

namespace Primer

/-- The levels of binary operations, the loosest first. -/
inductive Level where
  | logical
  | comparison
  | additive
  | multiplicative
deriving DecidableEq

namespace Level

/-- The operators of a level. -/
def operators : Level → List Operator
  | logical => [.and, .or]
  | comparison => [.lt, .le, .gt, .ge, .eq, .ne]
  | additive => [.add, .sub]
  | multiplicative => [.mul, .div]

/-- The operator of a level that a token is. -/
def operator? (level : Level) (t : Token) : Option Operator :=
  level.operators.find? fun op => op.symbol == t.literal

/-- How many levels, this one included, bind at least as tightly. -/
@[simp]
def rank : Level → Nat
  | logical => 4
  | comparison => 3
  | additive => 2
  | multiplicative => 1

end Level

namespace Reading

/-- What stands between the quotes of a literal. -/
def inner (literal : String) : List Char :=
  (literal.toList.drop 1).dropLast

/-- The value of a token that is a literal by itself; words are told by their text before anything is
told by its kind. A token that was made by hand may be of the kind of decimals and have a text such as `NaN`, which is
unreadable here, or a power of ten, which is taken whatever its size. -/
def literal? (t : Token) (rest : List Token) : Option (Except ParseFailure Value) :=
  if t.literal == "NIL" then some (.ok .nil)
  else if t.literal == "TRUE" then some (.ok (.bool true))
  else if t.literal == "FALSE" then some (.ok (.bool false))
  else match t.kind with
    | .integer =>
      match Numeral.read t.literal.toList with
      | .ok n => some (.ok (.int n))
      | .error cause => some (.error (.unreadableInteger cause))
    | .decimal =>
      match Decimal.read? t.literal.toList with
      | some d => some (.ok (.dec d))
      | none => some (.error .unreadableDecimal)
    | .string => some (.ok (.str (String.ofList (Text.unescape (inner t.literal)))))
    | .character =>
      match Text.unescape (inner t.literal) with
      | [c] => some (.ok (.char c))
      | _ => some (.error (.unexpected .characterLength (t :: rest)))
    | _ => none

mutual
/-- An operation of a level, or an operand of it alone. -/
def operation (level : Level) (ts : List Token) : Except ParseFailure (Parsed ts.length Expr) := do
  let ⟨left, rest, fewer⟩ ← operand level ts
  let ⟨e, rest', fewer'⟩ ← operations level left rest
  return ⟨e, rest', by omega⟩
termination_by (ts.length, 2 * level.rank + 1)

/-- An operand of a level: an operation of the next tighter one, or a secondary expression. -/
def operand (level : Level) (ts : List Token) : Except ParseFailure (Parsed ts.length Expr) :=
  match level with
  | .logical => operation .comparison ts
  | .comparison => operation .additive ts
  | .additive => operation .multiplicative ts
  | .multiplicative => secondary ts
termination_by (ts.length, 2 * level.rank)

/-- The operators and right operands of a level that follow a left operand. -/
def operations (level : Level) (left : Expr) (ts : List Token) : Except ParseFailure (Parsed (ts.length + 1) Expr) :=
  match ts with
  | [] => .ok ⟨left, [], by simp⟩
  | t :: rest =>
    match level.operator? t with
    | none => .ok ⟨left, t :: rest, by simp⟩
    | some op => do
      let ⟨right, rest', fewer⟩ ← operand level rest
      let ⟨e, rest'', fewer'⟩ ← operations level (.binary op left right left.offset) rest'
      return ⟨e, rest'', Nat.lt_trans fewer' (Nat.succ_lt_succ (Nat.lt_succ_of_lt fewer))⟩
termination_by (ts.length, 0)

/-- A primary expression with the fields and calls chained to it. -/
def secondary (ts : List Token) : Except ParseFailure (Parsed ts.length Expr) := do
  let ⟨e, rest, fewer⟩ ← primary ts
  let ⟨e', rest', fewer'⟩ ← links e rest
  return ⟨e', rest', by omega⟩
termination_by (ts.length, 1)

/-- The fields and calls chained to an expression. -/
def links (receiver : Expr) (ts : List Token) : Except ParseFailure (Parsed (ts.length + 1) Expr) :=
  match accept? "." ts with
  | none => .ok ⟨receiver, ts, by simp⟩
  | some ⟨_, rest, fewer⟩ => do
    let ⟨name, rest', fewer'⟩ ← identifier .identifier rest
    match accept? "(" rest' with
    | none =>
      let ⟨e, rest'', fewer''⟩ ← links (.field receiver name receiver.offset) rest'
      return ⟨e, rest'', by omega⟩
    | some ⟨_, inside, fewerInside⟩ =>
      let ⟨args, rest'', fewer''⟩ ← arguments inside
      let ⟨e, rest''', fewer'''⟩ ← links (.send receiver name args receiver.offset) rest''
      return ⟨e, rest''', by omega⟩
termination_by (ts.length, 0)

/-- The arguments of a call after its open parenthesis, up to and with the closing one. -/
def arguments (ts : List Token) : Except ParseFailure (Parsed ts.length (List Expr)) :=
  match accept? ")" ts with
  | some ⟨_, rest, fewer⟩ => .ok ⟨[], rest, fewer⟩
  | none => argumentList ts
termination_by (ts.length, 11)

/-- At least one argument, and the closing parenthesis. -/
def argumentList (ts : List Token) : Except ParseFailure (Parsed ts.length (List Expr)) := do
  let ⟨e, rest, fewer⟩ ← operation .logical ts
  match accept? ")" rest with
  | some ⟨_, rest', fewer'⟩ => return ⟨[e], rest', by omega⟩
  | none =>
    let ⟨_, rest', fewer'⟩ ← expect "," .commaOrParen rest
    let ⟨es, rest'', fewer''⟩ ← argumentList rest'
    return ⟨e :: es, rest'', by omega⟩
termination_by (ts.length, 10)

/-- A literal, an expression in parentheses, a name, or a call of a function. -/
def primary (ts : List Token) : Except ParseFailure (Parsed ts.length Expr) :=
  match ts with
  | [] => .error (.unexpected .expression [])
  | t :: rest =>
    match literal? t rest with
    | some (.ok value) => .ok ⟨.literal value t.offset, rest, by simp⟩
    | some (.error failure) => .error failure
    | none =>
      if t.literal == "(" then do
        let ⟨e, rest', fewer⟩ ← operation .logical rest
        let ⟨_, rest'', fewer'⟩ ← expect ")" .closeParen rest'
        return ⟨.group e t.offset, rest'', by simp only [List.length_cons]; omega⟩
      else if t.kind == .identifier then
        match accept? "(" rest with
        | none => .ok ⟨.ref t.literal t.offset, rest, by simp⟩
        | some ⟨_, inside, fewerInside⟩ => do
          let ⟨args, rest', fewer⟩ ← arguments inside
          return ⟨.call t.literal args t.offset, rest', by simp only [List.length_cons]; omega⟩
      else .error (.unexpected .expression (t :: rest))
termination_by (ts.length, 0)
end

/-- An expression. -/
def expression (ts : List Token) : Except ParseFailure (Parsed ts.length Expr) :=
  operation .logical ts

end Reading

end Primer
