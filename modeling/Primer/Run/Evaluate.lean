import Primer.Run.World
import Primer.Value.Operators

/-!
# Evaluating expressions and executing statements

A run goes by the tree alone: it looks at no slot, keeps scopes of its own and checks the kind of every
value. A statement ends with nothing, or with the value that ends the method it stands in. Every block
runs in a new scope, and so does every round of a loop.

Fuel bounds how far a run may go; enough of it never changes what a run does. Apart from fuel, calls of
methods may be nested only so deep.

The order of the steps is the same for everyone who goes through a program, whatever they want to see of it. So it is
laid down once, for any way to take the steps (`Conduct`); the run itself is the plain one (`Run.plain`).
-/

namespace Primer

/-- What is left of a loop: a range or a list, without the elements already seen. -/
inductive Items where
  | range (lo : Int) (hi : Bound)
  | list (vs : List Value)

namespace Items

/-- The elements of a value that can be looped over. -/
def ofValue? : Value → Option Items
  | .range lo hi => some (range lo hi)
  | .list vs => some (list vs)
  | _ => none

/-- The first element and those after it. -/
def next? : Items → Option (Value × Items)
  | range lo hi => if hi.admits lo then some (.int lo, range (lo + hi.step) hi) else none
  | list (v :: vs) => some (v, list vs)
  | list [] => none

end Items

/-- The left operand that decides a logical operation by itself. -/
def Operator.decisive? : Operator → Option Bool
  | .and => some false
  | .or => some true
  | _ => none

/-- A way to take the steps of a run. `κ` is what is known of the place where code stands, `ε` why the run may stop,
and `σ` the state that it goes through. -/
structure Conduct (κ ε σ : Type) where
  /-- A step that goes by nothing but the world. -/
  step : {α : Type} → Run α → EStateM ε σ α
  /-- The variable that a name means in a scope, given what is in its slot. -/
  variableOf : κ → ScopeId → String → Option Variable → EStateM ε σ Variable
  /-- The function that a name means in a scope when called with so many arguments, given what is in its slot. -/
  functionOf : κ → ScopeId → String → Nat → Option Function → EStateM ε σ Function
  /-- What an operator other than AND and OR makes of its operands. -/
  combine : Operator → Value → Value → EStateM ε σ Value
  /-- Calls a native function. -/
  native : Native → List Value → EStateM ε σ Value
  /-- Binds the new variable of a declaration, given what is in its slot. -/
  bind : κ → ScopeId → String → Value → Option Variable → EStateM ε σ Unit
  /-- Binds the new variable of a loop to an item. -/
  bindItem : κ → ScopeId → String → Value → EStateM ε σ Unit
  /-- Opens a scope for a method inside the one it was declared in, binds its parameters to arguments there, and
  tells where its body stands. -/
  enter : Function → ScopeId → List String → List Value → EStateM ε σ (ScopeId × κ)
  /-- Declares a method of a program in a scope. -/
  declareMethod : ScopeId → Method → EStateM ε σ Function
  /-- Where the fields of a program stand. -/
  field : ScopeId → κ
  /-- Where the statement behind another one stands. -/
  behind : κ → Stmt → κ
  /-- Where the second part of a conditional stands, behind the first part. -/
  elsePart : κ → List Stmt → κ
  /-- Where the body of a loop over items stands. -/
  round : κ → κ

namespace Conduct

open Run (ofExcept child read write fieldOf methodOf)

variable {κ ε σ : Type} (conduct : Conduct κ ε σ)

mutual
/-- Evaluates an expression in a scope, with so many nested calls to go. -/
def evaluate (fuel : Nat) (calls : Nat) (place : κ) (scope : ScopeId) (e : Expr) : EStateM ε σ Value :=
  match fuel with
  | 0 => conduct.step (throw .outOfFuel)
  | fuel + 1 =>
    match e with
    | .literal value _ _ => pure value
    | .group inner _ _ => evaluate fuel calls place scope inner
    | .binary op left right _ _ =>
      match op.decisive? with
      | some decisive => do
        let l ← conduct.step (ofExcept (← evaluate fuel calls place scope left).toBool)
        if l = decisive then return .bool l
        else return .bool (← conduct.step (ofExcept (← evaluate fuel calls place scope right).toBool))
      | none => do
        let l ← evaluate fuel calls place scope left
        let r ← evaluate fuel calls place scope right
        conduct.combine op l r
    | .ref name _ binding _ => do
      let v ← conduct.variableOf place scope name binding
      conduct.step (read v)
    | .field receiver name _ _ _ => do
      let r ← evaluate fuel calls place scope receiver
      let v ← conduct.step (fieldOf r name)
      conduct.step (read v)
    | .call name args _ callee _ => do
      let xs ← evaluateAll fuel calls place scope args
      let f ← conduct.functionOf place scope name xs.length callee
      invoke fuel calls f xs
    | .send receiver name args _ _ _ => do
      let xs ← evaluateAll fuel calls place scope args
      let r ← evaluate fuel calls place scope receiver
      let f ← conduct.step (methodOf r name xs.length)
      invoke fuel calls f (r :: xs)
    | .unknown _ => conduct.step (throw (.fault .unknownPhrase))

/-- Evaluates expressions from left to right. -/
def evaluateAll (fuel : Nat) (calls : Nat) (place : κ) (scope : ScopeId) (es : List Expr) :
    EStateM ε σ (List Value) :=
  match fuel with
  | 0 => conduct.step (throw .outOfFuel)
  | fuel + 1 =>
    match es with
    | [] => pure []
    | e :: es => do
      let x ← evaluate fuel calls place scope e
      let xs ← evaluateAll fuel calls place scope es
      return x :: xs

/-- Calls a function with arguments. A method runs in a new scope inside the one it was declared in; one
that ends without a value gives nil. -/
def invoke (fuel : Nat) (calls : Nat) (f : Function) (args : List Value) : EStateM ε σ Value :=
  match fuel with
  | 0 => conduct.step (throw .outOfFuel)
  | fuel + 1 => do
    match (← conduct.step get).bodies.get? f.number with
    | none => return .nil
    | some (.native g) => conduct.native g args
    | some (.method params statements scope) =>
      match calls with
      | 0 => conduct.step (throw (.fault .stackOverflow))
      | calls + 1 => do
        let entered ← conduct.enter f scope params args
        return (← executeAll fuel calls entered.2 entered.1 statements).getD .nil

/-- Executes a statement in a scope. -/
def execute (fuel : Nat) (calls : Nat) (place : κ) (scope : ScopeId) (s : Stmt) : EStateM ε σ (Option Value) :=
  match fuel with
  | 0 => conduct.step (throw .outOfFuel)
  | fuel + 1 =>
    match s with
    | .expression e _ => do
      let _ ← evaluate fuel calls place scope e
      return none
    | .declaration name _ initializer _ binding => do
      let x ← match initializer with
        | none => pure .nil
        | some e => evaluate fuel calls place scope e
      conduct.bind place scope name x binding
      return none
    | .assignment target value _ =>
      match target with
      | .ref name _ binding _ => do
        let v ← conduct.variableOf place scope name binding
        let x ← evaluate fuel calls place scope value
        conduct.step (write v x)
        return none
      | .field receiver name _ _ _ => do
        let r ← evaluate fuel calls place scope receiver
        let x ← evaluate fuel calls place scope value
        let v ← conduct.step (fieldOf r name)
        conduct.step (write v x)
        return none
      | _ => conduct.step (throw (.fault .notAssignable))
    | .conditional condition thenPart elsePart _ => do
      let c ← conduct.step (ofExcept (← evaluate fuel calls place scope condition).toBool)
      let inner ← conduct.step (child scope)
      if c then executeAll fuel calls place inner thenPart
      else executeAll fuel calls (conduct.elsePart place thenPart) inner elsePart
    | .forEach name iterable body _ => do
      let x ← evaluate fuel calls place scope iterable
      match Items.ofValue? x with
      | some items => forEach fuel calls place scope name body items
      | none => conduct.step (throw (.fault (.wrongKind "Iterable" x.kindName)))
    | .whileLoop condition body _ => whileLoop fuel calls place scope condition body
    | .ret value _ => do
      let x ← evaluate fuel calls place scope value
      return some x
    | .unknown _ => conduct.step (throw (.fault .unknownPhrase))

/-- Executes statements in a scope one after the other, up to one that ends the method. -/
def executeAll (fuel : Nat) (calls : Nat) (place : κ) (scope : ScopeId) (ss : List Stmt) :
    EStateM ε σ (Option Value) :=
  match fuel with
  | 0 => conduct.step (throw .outOfFuel)
  | fuel + 1 =>
    match ss with
    | [] => pure none
    | s :: ss => do
      match ← execute fuel calls place scope s with
      | some x => return some x
      | none => executeAll fuel calls (conduct.behind place s) scope ss

/-- Executes a block for each of the items left, with a name bound to the item. -/
def forEach (fuel : Nat) (calls : Nat) (place : κ) (scope : ScopeId) (name : String) (body : List Stmt)
    (items : Items) : EStateM ε σ (Option Value) :=
  match fuel with
  | 0 => conduct.step (throw .outOfFuel)
  | fuel + 1 =>
    match items.next? with
    | none => pure none
    | some (item, items) => do
      let inner ← conduct.step (child scope)
      conduct.bindItem place inner name item
      match ← executeAll fuel calls (conduct.round place) inner body with
      | some x => return some x
      | none => forEach fuel calls place scope name body items

/-- Executes a block for as long as a condition holds. -/
def whileLoop (fuel : Nat) (calls : Nat) (place : κ) (scope : ScopeId) (condition : Expr) (body : List Stmt) :
    EStateM ε σ (Option Value) :=
  match fuel with
  | 0 => conduct.step (throw .outOfFuel)
  | fuel + 1 => do
    let c ← conduct.step (ofExcept (← evaluate fuel calls place scope condition).toBool)
    if c then
      let inner ← conduct.step (child scope)
      match ← executeAll fuel calls place inner body with
      | some x => return some x
      | none => whileLoop fuel calls place scope condition body
    else return none
end

end Conduct

namespace Run

/-- The plain way to take the steps of a run: it goes by the world, looks at no slot and knows of no places. -/
@[reducible]
def plain : Conduct Unit Stop World where
  step x := x
  variableOf _ scope name _ := variableOf scope name
  functionOf _ scope name arity _ := functionOf scope name arity
  combine op left right := ofExcept (left.combine op right)
  native f args := native f args
  bind _ scope name x _ := bind scope name x
  bindItem _ scope name x := bind scope name x
  enter _ scope params args := do
    let frame ← child scope
    bindAll frame (params.zip args)
    return (frame, ())
  declareMethod scope m := declareMethod scope m
  field _ := ()
  behind _ _ := ()
  elsePart _ _ := ()
  round _ := ()

/-- Evaluates an expression in a scope, with so many nested calls to go. -/
abbrev evaluate (fuel calls : Nat) (scope : ScopeId) (e : Expr) : Run Value :=
  plain.evaluate fuel calls () scope e

/-- Evaluates expressions from left to right. -/
abbrev evaluateAll (fuel calls : Nat) (scope : ScopeId) (es : List Expr) : Run (List Value) :=
  plain.evaluateAll fuel calls () scope es

/-- Calls a function with arguments. -/
abbrev invoke (fuel calls : Nat) (f : Function) (args : List Value) : Run Value :=
  plain.invoke fuel calls f args

/-- Executes a statement in a scope. -/
abbrev execute (fuel calls : Nat) (scope : ScopeId) (s : Stmt) : Run (Option Value) :=
  plain.execute fuel calls () scope s

/-- Executes statements in a scope one after the other, up to one that ends the method. -/
abbrev executeAll (fuel calls : Nat) (scope : ScopeId) (ss : List Stmt) : Run (Option Value) :=
  plain.executeAll fuel calls () scope ss

/-- Executes a block for each of the items left, with a name bound to the item. -/
abbrev forEach (fuel calls : Nat) (scope : ScopeId) (name : String) (body : List Stmt) (items : Items) :
    Run (Option Value) :=
  plain.forEach fuel calls () scope name body items

/-- Executes a block for as long as a condition holds. -/
abbrev whileLoop (fuel calls : Nat) (scope : ScopeId) (condition : Expr) (body : List Stmt) : Run (Option Value) :=
  plain.whileLoop fuel calls () scope condition body

end Run

end Primer
