import Primer.Proofs.Token.Literals
import Primer.Proofs.Tree.Bare
import Primer.Value.Text

/-!
# Fresh trees

A tree is fresh when it is as reading leaves it: its phrases are of known forms, its operators are those of the
language, its literals have a text (`Value.IsLiteral`), and nothing in it is settled.
-/

namespace Primer

namespace Value

/-- That a value can come from a program alone. Ranges, lists and objects come from a host. -/
def IsPlain : Value → Prop
  | range .. | list .. | object .. => False
  | _ => True

/-- That a value can be a literal of a program. -/
def IsLiteral (v : Value) : Prop :=
  v.IsPlain ∧ ∃ text, v.display? = some text

theorem display?_int (n : Int) : display? (.int n) = Numeral.write? n := by
  unfold display? inspect?
  rfl

/-- A plain value has a text, unless it is an integer that is too long to be written. -/
theorem IsPlain.eq_int_of_display?_eq_none {v : Value} (plain : v.IsPlain) (textless : v.display? = none) :
    ∃ n : Int, v = .int n ∧ Nat.pow 10 Numeral.digitLimit ≤ n.natAbs := by
  cases v with
  | int n =>
    rw [display?_int] at textless
    exact ⟨n, rfl, Numeral.write?_eq_none_iff.mp textless⟩
  | nil | bool | dec | char | str =>
    unfold display? at textless
    cases textless
  | range | list | object => exact plain.elim

end Value

/-- That an operator is one of the language. -/
def Operator.IsKnown (op : Operator) : Prop :=
  ∀ symbol, op ≠ .other symbol

/-- That an expression is fresh. -/
inductive Expr.Fresh : Expr → Prop
  | literal {value : Value} {offset : Nat} (sort : value.IsLiteral) : Expr.Fresh (.literal value offset)
  | group {inner : Expr} {offset : Nat} (inside : Expr.Fresh inner) : Expr.Fresh (.group inner offset)
  | binary {op : Operator} {left right : Expr} {offset : Nat} (known : op.IsKnown)
      (first : Expr.Fresh left) (second : Expr.Fresh right) : Expr.Fresh (.binary op left right offset)
  | ref {name : String} {offset : Nat} : Expr.Fresh (.ref name offset)
  | field {receiver : Expr} {name : String} {offset : Nat} (inside : Expr.Fresh receiver) :
      Expr.Fresh (.field receiver name offset)
  | call {name : String} {args : List Expr} {offset : Nat} (given : ∀ e ∈ args, Expr.Fresh e) :
      Expr.Fresh (.call name args offset)
  | send {receiver : Expr} {name : String} {args : List Expr} {offset : Nat} (inside : Expr.Fresh receiver)
      (given : ∀ e ∈ args, Expr.Fresh e) : Expr.Fresh (.send receiver name args offset)

/-- That a statement is fresh. -/
inductive Stmt.Fresh : Stmt → Prop
  | expression {e : Expr} {offset : Nat} (inside : e.Fresh) : Stmt.Fresh (.expression e offset)
  | declaration {name : String} {typeName : Option String} {initializer : Option Expr} {offset : Nat}
      (inside : ∀ e ∈ initializer, e.Fresh) : Stmt.Fresh (.declaration name typeName initializer offset)
  | assignment {target value : Expr} {offset : Nat} (first : target.Fresh) (second : value.Fresh) :
      Stmt.Fresh (.assignment target value offset)
  | conditional {condition : Expr} {thenPart elsePart : List Stmt} {offset : Nat} (tested : condition.Fresh)
      (first : ∀ s ∈ thenPart, Stmt.Fresh s) (second : ∀ s ∈ elsePart, Stmt.Fresh s) :
      Stmt.Fresh (.conditional condition thenPart elsePart offset)
  | forEach {name : String} {iterable : Expr} {body : List Stmt} {offset : Nat} (iterated : iterable.Fresh)
      (inside : ∀ s ∈ body, Stmt.Fresh s) : Stmt.Fresh (.forEach name iterable body offset)
  | whileLoop {condition : Expr} {body : List Stmt} {offset : Nat} (tested : condition.Fresh)
      (inside : ∀ s ∈ body, Stmt.Fresh s) : Stmt.Fresh (.whileLoop condition body offset)
  | ret {value : Expr} {offset : Nat} (inside : value.Fresh) : Stmt.Fresh (.ret value offset)

/-- That a field is fresh. -/
structure Field.Fresh (f : Field) : Prop where
  initializer : ∀ e ∈ f.initializer, e.Fresh
  unsettled : f.binding = none

/-- That a method is fresh. -/
structure Method.Fresh (m : Method) : Prop where
  body : ∀ s ∈ m.body, s.Fresh
  unsettled : m.callee = none

/-- That a program is fresh. -/
structure Source.Fresh (s : Source) : Prop where
  fields : ∀ f ∈ s.fields, f.Fresh
  methods : ∀ m ∈ s.methods, m.Fresh

/-! ## Nothing is settled -/

theorem Expr.bareAll_eq_self {es : List Expr} (each : ∀ e ∈ es, e.bare = e) : Expr.bareAll es = es := by
  induction es with
  | nil => rfl
  | cons e es ih =>
    obtain ⟨first, others⟩ := List.forall_mem_cons.mp each
    rw [Expr.bareAll, first, ih others]

theorem Stmt.bareAll_eq_self {ss : List Stmt} (each : ∀ s ∈ ss, s.bare = s) : Stmt.bareAll ss = ss := by
  induction ss with
  | nil => rfl
  | cons s ss ih =>
    obtain ⟨first, others⟩ := List.forall_mem_cons.mp each
    rw [Stmt.bareAll, first, ih others]

theorem Expr.Fresh.bare_eq {e : Expr} (fresh : e.Fresh) : e.bare = e := by
  induction fresh with
  | literal | ref => rfl
  | group _ inside => rw [Expr.bare, inside]
  | binary _ _ _ first second => rw [Expr.bare, first, second]
  | field _ object => rw [Expr.bare, object]
  | call _ given => rw [Expr.bare, Expr.bareAll_eq_self given]
  | send _ _ object given => rw [Expr.bare, object, Expr.bareAll_eq_self given]

theorem Stmt.Fresh.bare_eq {s : Stmt} (fresh : s.Fresh) : s.bare = s := by
  induction fresh with
  | expression inside => rw [Stmt.bare, inside.bare_eq]
  | @declaration name typeName initializer offset inside =>
    cases initializer with
    | none => rfl
    | some e => rw [Stmt.bare, Option.map_some, (inside e rfl).bare_eq]
  | assignment left right => rw [Stmt.bare, left.bare_eq, right.bare_eq]
  | conditional tested _ _ first second =>
    rw [Stmt.bare, tested.bare_eq, Stmt.bareAll_eq_self first, Stmt.bareAll_eq_self second]
  | forEach iterated _ inside => rw [Stmt.bare, iterated.bare_eq, Stmt.bareAll_eq_self inside]
  | whileLoop tested _ inside => rw [Stmt.bare, tested.bare_eq, Stmt.bareAll_eq_self inside]
  | ret inside => rw [Stmt.bare, inside.bare_eq]

theorem Field.Fresh.bare_eq {f : Field} (fresh : f.Fresh) : f.bare = f := by
  obtain ⟨name, typeName, initializer, offset, binding⟩ := f
  obtain ⟨inside, rfl⟩ := fresh
  cases initializer with
  | none => rfl
  | some e => rw [Field.bare, Option.map_some, (inside e rfl).bare_eq]

theorem Method.Fresh.bare_eq {m : Method} (fresh : m.Fresh) : m.bare = m := by
  obtain ⟨name, params, resultTypeName, body, offset, callee⟩ := m
  obtain ⟨inside, rfl⟩ := fresh
  rw [Method.bare, Stmt.bareAll_eq_self fun s mem => (inside s mem).bare_eq]

theorem Source.Fresh.bare_eq {s : Source} (fresh : s.Fresh) : s.bare = s := by
  obtain ⟨fields, methods⟩ := s
  rw [Source.bare, List.map_congr_left fun f mem => (fresh.fields f mem).bare_eq,
    List.map_congr_left fun m mem => (fresh.methods m mem).bare_eq, List.map_id', List.map_id']

end Primer
