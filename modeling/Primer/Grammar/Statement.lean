import Primer.Grammar.Expression

/-!
# Reading statements

    statement ::= LET name (':' type)? ('=' expression)? ';'
                | IF expression DO statement* (ELSE statement*)? END
                | FOR name IN expression DO statement* END
                | WHILE expression DO statement* END
                | RETURN expression ';'
                | expression ('=' expression)? ';'
-/

namespace Primer.Reading

/-- The name of a type after a colon, or nothing. -/
def typeClause (ts : List Token) : Except ParseFailure (Parsed (ts.length + 1) (Option String)) :=
  match accept? ":" ts with
  | none => .ok ⟨none, ts, Parsed.fewer_unread ts⟩
  | some ⟨_, rest, fewer⟩ => do
    let ⟨name, rest', fewer'⟩ ← identifier .typeName rest
    return ⟨some name, rest', by omega⟩

/-- The expression after an equals sign, or nothing. -/
def valueClause (ts : List Token) : Except ParseFailure (Parsed (ts.length + 1) (Option Expr)) :=
  match accept? "=" ts with
  | none => .ok ⟨none, ts, Parsed.fewer_unread ts⟩
  | some ⟨_, rest, fewer⟩ => do
    let ⟨e, rest', fewer'⟩ ← expression rest
    return ⟨some e, rest', by omega⟩

/-- The declaration of a variable, with a type, a value, or both. -/
def declaration (ts : List Token) : Except ParseFailure (Parsed ts.length Stmt) := do
  let ⟨start, rest₁, fewer₁⟩ ← expect "LET" (.word "LET") ts
  let ⟨name, rest₂, fewer₂⟩ ← identifier .identifier rest₁
  let ⟨typeName, rest₃, fewer₃⟩ ← typeClause rest₂
  let ⟨initializer, rest₄, fewer₄⟩ ← valueClause rest₃
  let ⟨_, rest₅, fewer₅⟩ ← expect ";" .semicolon rest₄
  return ⟨.declaration name typeName initializer start.offset, rest₅, by omega⟩

/-- An assignment, or an expression that stands alone. -/
def assignment (ts : List Token) : Except ParseFailure (Parsed ts.length Stmt) := do
  let ⟨target, rest₁, fewer₁⟩ ← expression ts
  let ⟨value, rest₂, fewer₂⟩ ← valueClause rest₁
  let ⟨_, rest₃, fewer₃⟩ ← expect ";" .semicolon rest₂
  match value with
  | some value => return ⟨.assignment target value target.offset, rest₃, by omega⟩
  | none => return ⟨.expression target target.offset, rest₃, by omega⟩

/-- The end of a method, with its value. -/
def returning (ts : List Token) : Except ParseFailure (Parsed ts.length Stmt) := do
  let ⟨start, rest₁, fewer₁⟩ ← expect "RETURN" (.word "RETURN") ts
  let ⟨value, rest₂, fewer₂⟩ ← expression rest₁
  let ⟨_, rest₃, fewer₃⟩ ← expect ";" .semicolon rest₂
  return ⟨.ret value start.offset, rest₃, Parsed.fewer_of_three fewer₁ fewer₂ fewer₃⟩

mutual
/-- A statement, told by its first word. -/
def statement (ts : List Token) : Except ParseFailure (Parsed ts.length Stmt) :=
  match (ts.head?.map Token.literal).getD "" with
  | "LET" => declaration ts
  | "IF" => conditional ts
  | "FOR" => forEach ts
  | "WHILE" => whileLoop ts
  | "RETURN" => returning ts
  | _ => assignment ts
termination_by (ts.length, 1)

/-- Two blocks to choose from; the second may be missing. -/
def conditional (ts : List Token) : Except ParseFailure (Parsed ts.length Stmt) := do
  let ⟨start, rest₁, fewer₁⟩ ← expect "IF" (.word "IF") ts
  let ⟨condition, rest₂, fewer₂⟩ ← expression rest₁
  let ⟨_, rest₃, fewer₃⟩ ← expect "DO" (.word "DO") rest₂
  let ⟨thenPart, rest₄, fewer₄⟩ ← block ["ELSE", "END"] rest₃
  match accept? "ELSE" rest₄ with
  | none =>
    let ⟨_, rest₅, fewer₅⟩ ← expect "END" (.word "END") rest₄
    return ⟨.conditional condition thenPart [] start.offset, rest₅, by omega⟩
  | some ⟨_, rest₅, fewer₅⟩ =>
    let ⟨elsePart, rest₆, fewer₆⟩ ← block ["END"] rest₅
    let ⟨_, rest₇, fewer₇⟩ ← expect "END" (.word "END") rest₆
    return ⟨.conditional condition thenPart elsePart start.offset, rest₇, by omega⟩
termination_by (ts.length, 0)

/-- A block for each element of something. -/
def forEach (ts : List Token) : Except ParseFailure (Parsed ts.length Stmt) := do
  let ⟨start, rest₁, fewer₁⟩ ← expect "FOR" (.word "FOR") ts
  let ⟨name, rest₂, fewer₂⟩ ← identifier .identifier rest₁
  let ⟨_, rest₃, fewer₃⟩ ← expect "IN" (.word "IN") rest₂
  let ⟨iterable, rest₄, fewer₄⟩ ← expression rest₃
  let ⟨_, rest₅, fewer₅⟩ ← expect "DO" (.word "DO") rest₄
  let ⟨body, rest₆, fewer₆⟩ ← block ["END"] rest₅
  let ⟨_, rest₇, fewer₇⟩ ← expect "END" (.word "END") rest₆
  return ⟨.forEach name iterable body start.offset, rest₇, by omega⟩
termination_by (ts.length, 0)

/-- A block for as long as a condition holds. -/
def whileLoop (ts : List Token) : Except ParseFailure (Parsed ts.length Stmt) := do
  let ⟨start, rest₁, fewer₁⟩ ← expect "WHILE" (.word "WHILE") ts
  let ⟨condition, rest₂, fewer₂⟩ ← expression rest₁
  let ⟨_, rest₃, fewer₃⟩ ← expect "DO" (.word "DO") rest₂
  let ⟨body, rest₄, fewer₄⟩ ← block ["END"] rest₃
  let ⟨_, rest₅, fewer₅⟩ ← expect "END" (.word "END") rest₄
  return ⟨.whileLoop condition body start.offset, rest₅, by omega⟩
termination_by (ts.length, 0)

/-- The statements up to one of the words that may end them, which is left alone. -/
def block (stops : List String) (ts : List Token) :
    Except ParseFailure (Parsed (ts.length + 1) (List Stmt)) :=
  match ts with
  | [] => .error (.unexpected (.oneOf stops) [])
  | t :: rest =>
    if t.literal ∈ stops then .ok ⟨[], t :: rest, by simp⟩
    else do
      let ⟨s, rest₁, fewer₁⟩ ← statement (t :: rest)
      let ⟨ss, rest₂, fewer₂⟩ ← block stops rest₁
      return ⟨s :: ss, rest₂, by omega⟩
termination_by (ts.length, 2)
end

end Primer.Reading
