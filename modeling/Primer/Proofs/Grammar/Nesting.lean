import Primer.Proofs.Grammar.Soundness
import Primer.Proofs.Tree.Bare

/-!
# How the operations of a program nest

The levels of the grammar, seen in the trees. An operation of a level has an operation of its own level on
its left at most, and on its right one of a tighter level; what a field or a method is taken of is no
operation at all. An expression in parentheses is an operand like a name.

**The law** (`nests_of_derives`): the expressions that the grammar derives nest so, and those in the programs it
derives.
-/

namespace Primer

/-- The level of an operator, the loosest first. No level has an operator that the language does not have. -/
def Operator.tightness : Operator → Nat
  | .and | .or => 1
  | .lt | .le | .gt | .ge | .eq | .ne => 2
  | .add | .sub => 3
  | .mul | .div => 4
  | .other _ => 0

namespace Expr

/-- How tightly an expression holds together: an operation by the level of its operator, and anything else
tighter than all of them. -/
def tightness : Expr → Nat
  | binary op _ _ _ _ => op.tightness
  | _ => 5

/-- That the direct parts of an expression hold together as its place for them asks. -/
def Fits : Expr → Prop
  | binary op left right _ _ => op.tightness ≤ left.tightness ∧ op.tightness < right.tightness
  | field receiver _ _ _ _ => receiver.tightness = 5
  | send receiver _ _ _ _ _ => receiver.tightness = 5
  | _ => True

/-- That operations nest by their levels everywhere in an expression. -/
def Nested (e : Expr) : Prop :=
  ∀ part ∈ e.parts, part.Fits

theorem tightness_bare (e : Expr) : e.bare.tightness = e.tightness := by
  cases e <;> rfl

theorem fits_bare (e : Expr) : e.bare.Fits ↔ e.Fits := by
  cases e <;> simp [Fits, tightness_bare]

theorem nested_iff_of_bare_eq {e e' : Expr} (same : e.bare = e'.bare) : e.Nested ↔ e'.Nested :=
  forall_parts_iff fits_bare same

variable {op : Operator} {left right receiver : Expr} {name : String} {args : List Expr} {offset : Nat}
  {binding : Option Variable} {callee : Option Function} {type : Option Ty}

theorem nested_group : (group left offset type).Nested ↔ left.Nested := by
  simp [Nested, parts, Fits]

theorem nested_binary : (binary op left right offset type).Nested ↔
    (op.tightness ≤ left.tightness ∧ op.tightness < right.tightness) ∧ left.Nested ∧ right.Nested := by
  simp only [Nested, parts, List.forall_mem_cons, List.forall_mem_append, Fits]

theorem nested_field :
    (field receiver name offset binding type).Nested ↔ receiver.tightness = 5 ∧ receiver.Nested := by
  simp only [Nested, parts, List.forall_mem_cons, Fits]

theorem nested_call : (call name args offset callee type).Nested ↔ ∀ e ∈ args, e.Nested := by
  simp only [Nested, parts, List.forall_mem_cons, forall_partsAll, Fits, true_and]

theorem nested_send : (send receiver name args offset callee type).Nested ↔
    receiver.tightness = 5 ∧ receiver.Nested ∧ ∀ e ∈ args, e.Nested := by
  simp only [Nested, parts, List.forall_mem_cons, List.forall_mem_append, forall_partsAll, Fits]

end Expr

/-- That operations nest by their levels everywhere in a statement. -/
def Stmt.Nested (s : Stmt) : Prop :=
  ∀ p ∈ s.parts, ∀ e ∈ p.exprs, e.Nested

namespace Stmt

variable {condition iterable : Expr} {thenPart elsePart body : List Stmt} {name : String} {offset : Nat}

/-- In a statement without statements inside, only its own expressions count. -/
theorem nested_of_exprs {s : Stmt} (alone : s.parts = [s]) (inside : ∀ e ∈ s.exprs, e.Nested) : s.Nested := by
  rw [Nested, alone]
  exact List.forall_mem_singleton.mpr inside

theorem nested_conditional : (conditional condition thenPart elsePart offset).Nested ↔
    condition.Nested ∧ (∀ s ∈ thenPart, s.Nested) ∧ ∀ s ∈ elsePart, s.Nested := by
  simp [Nested, parts, exprs, forall_partsAll, or_imp, forall_and]

theorem nested_forEach : (forEach name iterable body offset).Nested ↔ iterable.Nested ∧ ∀ s ∈ body, s.Nested := by
  simp [Nested, parts, exprs, forall_partsAll]

theorem nested_whileLoop : (whileLoop condition body offset).Nested ↔ condition.Nested ∧ ∀ s ∈ body, s.Nested := by
  simp [Nested, parts, exprs, forall_partsAll]

end Stmt

/-- That operations nest by their levels everywhere in a program. -/
def Source.Nested (s : Source) : Prop :=
  ∀ e ∈ s.expressions, e.Fits

namespace Source

variable {s s' : Source}

theorem nested_iff_of_bare_eq (same : s.bare = s'.bare) : s.Nested ↔ s'.Nested :=
  forall_expressions_iff Expr.fits_bare same

theorem Nested.of_mem_expressions (nested : s.Nested) : ∀ e ∈ s.expressions, e.Nested :=
  fun e mem part isPart => nested part (parts_subset_expressions e mem isPart)

theorem nested_of_forall (fields : ∀ f ∈ s.fields, ∀ e ∈ f.initializer, e.Nested)
    (methods : ∀ m ∈ s.methods, ∀ p ∈ m.body, p.Nested) : s.Nested := by
  have statements : ∀ p ∈ s.statements, ∀ e ∈ p.exprs, e.Nested := forall_statements.mpr methods
  exact forall_expressions.mpr ⟨fields, statements⟩

end Source

namespace Grammar

/-- The place of a level among the levels, the loosest first. -/
def tightnessOf : Level → Nat
  | .logical => 1
  | .comparison => 2
  | .additive => 3
  | .multiplicative => 4

theorem tightness_eq_of_mem {level : Level} {op : Operator} (listed : op ∈ level.operators) :
    op.tightness = tightnessOf level := by
  cases level <;> simp only [Level.operators, List.mem_cons, List.not_mem_nil, or_false] at listed <;>
    rcases listed with rfl | rfl | rfl | rfl | rfl | rfl <;> rfl

/-- That operations nest by their levels in what a symbol is read as, and how tightly an expression of the
symbol holds together. -/
def Symbol.Nests : (symbol : Symbol) → symbol.Tree → Prop
  | operation level, e => Expr.Nested e ∧ tightnessOf level ≤ Expr.tightness e
  | operand level, e => Expr.Nested e ∧ tightnessOf level < Expr.tightness e
  | operations level, os => ∀ o ∈ os, o.1 ∈ level.operators ∧ Expr.Nested o.2 ∧ tightnessOf level < o.2.tightness
  | secondary, e => Expr.Nested e ∧ Expr.tightness e = 5
  | primary, e => Expr.Nested e ∧ Expr.tightness e = 5
  | links, ls => ∀ name args, Link.call name args ∈ ls → ∀ e ∈ args, e.Nested
  | arguments, args => ∀ e ∈ args, Expr.Nested e
  | argumentList, args => ∀ e ∈ args, Expr.Nested e
  | valueClause, value => ∀ e ∈ (value : Option Expr), e.Nested
  | statement, s => Stmt.Nested s
  | statements, ss | elseClause, ss => ∀ s ∈ (ss : List Stmt), s.Nested
  | field, f => ∀ e ∈ Field.initializer f, e.Nested
  | fields, fs => ∀ f ∈ (fs : List Field), ∀ e ∈ f.initializer, e.Nested
  | method, m => ∀ s ∈ Method.body m, s.Nested
  | methods, ms => ∀ m ∈ (ms : List Method), ∀ s ∈ m.body, s.Nested
  | source, s => Source.Nested s
  | params, _ | paramList, _ | typeClause, _ => True

theorem nested_grouped {level : Level} {start : Nat} {first : Expr} {operations : List (Operator × Expr)}
    (isFirst : first.Nested ∧ tightnessOf level ≤ first.tightness)
    (areOthers : Symbol.Nests (.operations level) operations) :
    (grouped start first operations).Nested ∧ tightnessOf level ≤ (grouped start first operations).tightness := by
  induction operations generalizing first with
  | nil => exact isFirst
  | cons operation operations ih =>
    obtain ⟨⟨listed, nested, tighter⟩, more⟩ := List.forall_mem_cons.mp areOthers
    have level := tightness_eq_of_mem listed
    apply ih _ more
    constructor
    · rw [Expr.nested_binary, level]
      exact ⟨⟨isFirst.2, tighter⟩, isFirst.1, nested⟩
    · exact Nat.le_of_eq level.symm

theorem nested_chain {start : Nat} {first : Expr} {links : List Link}
    (isFirst : first.Nested ∧ first.tightness = 5) (areOthers : Symbol.Nests .links links) :
    (chain start first links).Nested ∧ (chain start first links).tightness = 5 := by
  induction links generalizing first with
  | nil => exact isFirst
  | cons link links ih =>
    have more : Symbol.Nests .links links := by
      intro name args mem
      exact areOthers name args (List.mem_cons_of_mem _ mem)
    apply ih _ more
    cases link with
    | field name => exact ⟨Expr.nested_field.mpr ⟨isFirst.2, isFirst.1⟩, rfl⟩
    | call name args =>
      have given := areOthers name args List.mem_cons_self
      exact ⟨Expr.nested_send.mpr ⟨isFirst.2, isFirst.1, given⟩, rfl⟩

/-- What the grammar derives nests by its levels. -/
theorem nests_of_derives {symbol : Symbol} {us : List Token} {tree : symbol.Tree}
    (derived : Derives symbol us tree) : symbol.Nests tree := by
  induction derived with
  | operation _ _ first others => exact nested_grouped ⟨first.1, Nat.le_of_lt first.2⟩ others
  | noOperations => exact List.forall_mem_nil _
  | operations listed _ _ _ right others => exact List.forall_mem_cons.mpr ⟨⟨listed, right⟩, others⟩
  | comparison _ ih => exact ⟨ih.1, Nat.lt_of_lt_of_le (by decide) ih.2⟩
  | additive _ ih => exact ⟨ih.1, Nat.lt_of_lt_of_le (by decide) ih.2⟩
  | multiplicative _ ih => exact ⟨ih.1, Nat.lt_of_lt_of_le (by decide) ih.2⟩
  | factor _ ih => exact ⟨ih.1, Nat.lt_of_lt_of_eq (by decide) ih.2.symm⟩
  | secondary _ _ first others => exact nested_chain first others
  | noLinks => exact fun _ _ mem => absurd mem List.not_mem_nil
  | fieldLink _ _ _ others =>
    intro name args mem
    rcases List.mem_cons.mp mem with same | mem
    · cases same
    · exact others name args mem
  | callLink _ _ _ _ _ _ given others =>
    intro name args mem
    rcases List.mem_cons.mp mem with same | mem
    · cases same
      exact given
    · exact others name args mem
  | noArguments => exact List.forall_mem_nil _
  | arguments _ ih => exact ih
  | lastArgument _ ih => exact List.forall_mem_cons.mpr ⟨ih.1, List.forall_mem_nil _⟩
  | argument _ _ _ first others => exact List.forall_mem_cons.mpr ⟨first.1, others⟩
  | literal _ => exact ⟨by simp [Expr.Nested, Expr.parts, Expr.Fits], rfl⟩
  | group _ _ _ inside => exact ⟨Expr.nested_group.mpr inside.1, rfl⟩
  | name _ => exact ⟨by simp [Expr.Nested, Expr.parts, Expr.Fits], rfl⟩
  | call _ _ _ _ given => exact ⟨Expr.nested_call.mpr given, rfl⟩
  | value _ _ inside =>
    rintro e ⟨⟩
    exact inside.1
  | noValue => exact fun _ absent => nomatch absent
  | expression _ _ inside => exact Stmt.nested_of_exprs rfl (List.forall_mem_singleton.mpr inside.1)
  | returning _ _ _ value => exact Stmt.nested_of_exprs rfl (List.forall_mem_singleton.mpr value.1)
  | assignment _ _ _ _ left right =>
    exact Stmt.nested_of_exprs rfl (List.forall_mem_cons.mpr ⟨left.1, List.forall_mem_singleton.mpr right.1⟩)
  | declaration _ _ _ _ _ _ value => exact Stmt.nested_of_exprs rfl fun e mem => value e (Option.mem_toList.mp mem)
  | conditional _ _ _ _ _ _ tested first second => exact Stmt.nested_conditional.mpr ⟨tested.1, first, second⟩
  | forEach _ _ _ _ _ _ _ iterable body => exact Stmt.nested_forEach.mpr ⟨iterable.1, body⟩
  | whileLoop _ _ _ _ _ tested body => exact Stmt.nested_whileLoop.mpr ⟨tested.1, body⟩
  | noStatements | noElse | noFields | noMethods => exact List.forall_mem_nil _
  | statements _ _ first others | fields _ _ first others | methods _ _ first others =>
    exact List.forall_mem_cons.mpr ⟨first, others⟩
  | elseClause _ _ inside => exact inside
  | field _ _ _ _ _ _ value => exact value
  | method _ _ _ _ _ _ _ _ _ _ _ body => exact body
  | source _ _ fields methods => exact Source.nested_of_forall fields methods
  | noParams | lastParam | param | params | noType | type => trivial

end Grammar

end Primer
