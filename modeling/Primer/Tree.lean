import Primer.Record
import Primer.Value

/-!
# Trees of programs

The phrases of a program: expressions, statements, fields, methods and the whole source. Each carries
the offset of its first token. A slot is a place for something that checking finds out: the type of an
expression, the variable or the function that a name means. Slots are empty until they are settled.

A tree may also hold a phrase of no known form; no activity knows what to do with one.
-/

namespace Primer

/-- What a binary expression does with its operands. The language has the first twelve; a tree made by
hand may hold others, known by their symbol alone. -/
inductive Operator where
  | and
  | or
  | lt
  | le
  | gt
  | ge
  | eq
  | ne
  | add
  | sub
  | mul
  | div
  | other (symbol : String)
deriving DecidableEq

namespace Operator

/-- How an operator is written. -/
def symbol : Operator → String
  | and => "AND"
  | or => "OR"
  | lt => "<"
  | le => "<="
  | gt => ">"
  | ge => ">="
  | eq => "=="
  | ne => "!="
  | add => "+"
  | sub => "-"
  | mul => "*"
  | div => "/"
  | other symbol => symbol

/-- The operator that is written so. -/
def ofSymbol : String → Operator
  | "AND" => and
  | "OR" => or
  | "<" => lt
  | "<=" => le
  | ">" => gt
  | ">=" => ge
  | "==" => eq
  | "!=" => ne
  | "+" => add
  | "-" => sub
  | "*" => mul
  | "/" => div
  | symbol => other symbol

end Operator

/-- An expression, with the offset of its first token and its slots. A name stands alone or is a field
of what a receiver evaluates to; a call likewise. -/
inductive Expr where
  | literal (value : Value) (offset : Nat) (type : Option Ty := none)
  | group (inner : Expr) (offset : Nat) (type : Option Ty := none)
  | binary (op : Operator) (left right : Expr) (offset : Nat) (type : Option Ty := none)
  | ref (name : String) (offset : Nat) (binding : Option Variable := none) (type : Option Ty := none)
  | field (receiver : Expr) (name : String) (offset : Nat) (binding : Option Variable := none)
      (type : Option Ty := none)
  | call (name : String) (args : List Expr) (offset : Nat) (callee : Option Function := none)
      (type : Option Ty := none)
  | send (receiver : Expr) (name : String) (args : List Expr) (offset : Nat)
      (callee : Option Function := none) (type : Option Ty := none)
  | unknown (offset : Nat)

instance : Inhabited Expr := ⟨.unknown 0⟩

namespace Expr

/-- Where the first token of an expression begins. -/
def offset : Expr → Nat
  | literal _ offset _ => offset
  | group _ offset _ => offset
  | binary _ _ _ offset _ => offset
  | ref _ offset _ _ => offset
  | field _ _ offset _ _ => offset
  | call _ _ offset _ _ => offset
  | send _ _ _ offset _ _ => offset
  | unknown offset => offset

/-- The type of an expression, once it is settled. -/
def type? : Expr → Option Ty
  | literal _ _ type => type
  | group _ _ type => type
  | binary _ _ _ _ type => type
  | ref _ _ _ type => type
  | field _ _ _ _ type => type
  | call _ _ _ _ type => type
  | send _ _ _ _ _ type => type
  | unknown _ => none

end Expr

/-- A statement, with the offset of its first token and its slot. -/
inductive Stmt where
  | expression (expr : Expr) (offset : Nat)
  | declaration (name : String) (typeName : Option String) (initializer : Option Expr) (offset : Nat)
      (binding : Option Variable := none)
  | assignment (target value : Expr) (offset : Nat)
  | conditional (condition : Expr) (thenPart elsePart : List Stmt) (offset : Nat)
  | forEach (name : String) (iterable : Expr) (body : List Stmt) (offset : Nat)
  | whileLoop (condition : Expr) (body : List Stmt) (offset : Nat)
  | ret (value : Expr) (offset : Nat)
  | unknown (offset : Nat)

instance : Inhabited Stmt := ⟨.unknown 0⟩

/-- A field of a program: a variable that all its methods share. -/
structure Field where
  name : String
  typeName : String
  initializer : Option Expr
  offset : Nat
  binding : Option Variable := none

/-- A parameter of a method, with the name of its type. -/
structure Param where
  name : String
  typeName : String
deriving DecidableEq

/-- A method of a program. Without a result type it gives nothing back. -/
structure Method where
  name : String
  params : List Param
  resultTypeName : Option String
  body : List Stmt
  offset : Nat
  callee : Option Function := none

/-- A whole program. -/
structure Source where
  fields : List Field
  methods : List Method

/-- A phrase of any sort. -/
inductive Phrase where
  | source (s : Source)
  | field (f : Field)
  | method (m : Method)
  | stmt (s : Stmt)
  | expr (e : Expr)

end Primer
