import Primer.Proofs.Grammar.Derivation
import Primer.Proofs.Tree.Parts

/-!
# Where the phrases of a program stand

A phrase has the offset of its first token, but a tree has many phrases that begin with the same token, and the
rules hand the offset on from one to the other: an operation takes that of its left operand, a member that of its
receiver, and a statement that of its first expression.

**The law** (`Derives.stands`): whatever is true of the offsets of all tokens of a phrase is true of the offset of
every phrase inside it.
-/

namespace Primer

variable {At : Nat → Prop}

/-- That all offsets in an expression are of some sort. -/
def Expr.Stands (At : Nat → Prop) (e : Expr) : Prop :=
  ∀ part ∈ e.parts, At part.offset

/-- That all offsets in a statement are of some sort. -/
def Stmt.Stands (At : Nat → Prop) (s : Stmt) : Prop :=
  ∀ p ∈ s.parts, At p.offset ∧ ∀ e ∈ p.exprs, e.Stands At

/-- That all offsets in a field are of some sort. -/
structure Field.Stands (At : Nat → Prop) (f : Field) : Prop where
  here : At f.offset
  initializer : ∀ e ∈ f.initializer, e.Stands At

/-- That all offsets in a method are of some sort. -/
structure Method.Stands (At : Nat → Prop) (m : Method) : Prop where
  here : At m.offset
  body : ∀ s ∈ m.body, s.Stands At

/-- That all offsets in a program are of some sort. -/
structure Source.Stands (At : Nat → Prop) (s : Source) : Prop where
  fields : ∀ f ∈ s.fields, f.Stands At
  methods : ∀ m ∈ s.methods, m.Stands At

/-! ## Expressions -/

namespace Expr

variable {op : Operator} {left right inner receiver : Expr} {value : Value} {name : String} {args : List Expr}
  {offset : Nat} {binding : Option Variable} {callee : Option Function} {type : Option Ty}

theorem stands_literal : (literal value offset type).Stands At ↔ At offset := by
  simp [Stands, parts, Expr.offset]

theorem stands_ref : (ref name offset binding type).Stands At ↔ At offset := by
  simp [Stands, parts, Expr.offset]

theorem stands_group : (group inner offset type).Stands At ↔ At offset ∧ inner.Stands At := by
  simp only [Stands, parts, List.forall_mem_cons, Expr.offset]

theorem stands_binary :
    (binary op left right offset type).Stands At ↔ At offset ∧ left.Stands At ∧ right.Stands At := by
  simp only [Stands, parts, List.forall_mem_cons, List.forall_mem_append, Expr.offset]

theorem stands_field : (field receiver name offset binding type).Stands At ↔ At offset ∧ receiver.Stands At := by
  simp only [Stands, parts, List.forall_mem_cons, Expr.offset]

theorem stands_call : (call name args offset callee type).Stands At ↔ At offset ∧ ∀ e ∈ args, e.Stands At := by
  simp only [Stands, parts, List.forall_mem_cons, forall_partsAll, Expr.offset]

theorem stands_send : (send receiver name args offset callee type).Stands At ↔
    At offset ∧ receiver.Stands At ∧ ∀ e ∈ args, e.Stands At := by
  simp only [Stands, parts, List.forall_mem_cons, List.forall_mem_append, forall_partsAll, Expr.offset]

end Expr

/-! ## Statements -/

namespace Stmt

variable {e target value condition iterable : Expr} {name : String} {typeName : Option String}
  {initializer : Option Expr} {thenPart elsePart body : List Stmt} {offset : Nat} {binding : Option Variable}

theorem stands_expression : (expression e offset).Stands At ↔ At offset ∧ e.Stands At := by
  simp [Stands, parts, Stmt.offset, exprs]

theorem stands_declaration : (declaration name typeName initializer offset binding).Stands At ↔
    At offset ∧ ∀ e ∈ initializer, e.Stands At := by
  simp [Stands, parts, Stmt.offset, exprs]

theorem stands_assignment :
    (assignment target value offset).Stands At ↔ At offset ∧ target.Stands At ∧ value.Stands At := by
  simp [Stands, parts, Stmt.offset, exprs]

theorem stands_conditional : (conditional condition thenPart elsePart offset).Stands At ↔
    (At offset ∧ condition.Stands At) ∧ (∀ s ∈ thenPart, s.Stands At) ∧ ∀ s ∈ elsePart, s.Stands At := by
  unfold Stands
  rw [parts, List.forall_mem_cons, List.forall_mem_append, forall_partsAll, forall_partsAll]
  exact and_congr_left fun _ => and_congr_right fun _ => List.forall_mem_singleton

theorem stands_forEach : (forEach name iterable body offset).Stands At ↔
    (At offset ∧ iterable.Stands At) ∧ ∀ s ∈ body, s.Stands At := by
  unfold Stands
  rw [parts, List.forall_mem_cons, forall_partsAll]
  exact and_congr_left fun _ => and_congr_right fun _ => List.forall_mem_singleton

theorem stands_whileLoop : (whileLoop condition body offset).Stands At ↔
    (At offset ∧ condition.Stands At) ∧ ∀ s ∈ body, s.Stands At := by
  unfold Stands
  rw [parts, List.forall_mem_cons, forall_partsAll]
  exact and_congr_left fun _ => and_congr_right fun _ => List.forall_mem_singleton

theorem stands_ret : (ret value offset).Stands At ↔ At offset ∧ value.Stands At := by
  simp [Stands, parts, Stmt.offset, exprs]

end Stmt

/-! ## Derivations -/

namespace Grammar

/-- That all offsets in a link are of some sort. -/
def Link.Stands (At : Nat → Prop) : Link → Prop
  | field _ => True
  | call _ args => ∀ e ∈ args, e.Stands At

/-- That all offsets in a tree of a symbol are of some sort. -/
def Symbol.Stands (At : Nat → Prop) : (symbol : Symbol) → symbol.Tree → Prop
  | source, s => Source.Stands At s
  | fields, fs => ∀ f ∈ (fs : List Field), f.Stands At
  | field, f => Field.Stands At f
  | methods, ms => ∀ m ∈ (ms : List Method), m.Stands At
  | method, m => Method.Stands At m
  | params, _ | paramList, _ | typeClause, _ => True
  | valueClause, value => ∀ e ∈ (value : Option Expr), e.Stands At
  | statements, ss | elseClause, ss => ∀ s ∈ (ss : List Stmt), s.Stands At
  | statement, s => Stmt.Stands At s
  | operation _, e | operand _, e | secondary, e | primary, e => Expr.Stands At e
  | operations _, ops => ∀ operation ∈ (ops : List (Operator × Expr)), operation.2.Stands At
  | links, ls => ∀ link ∈ (ls : List Link), link.Stands At
  | arguments, args | argumentList, args => ∀ e ∈ (args : List Expr), e.Stands At

theorem stands_grouped {start : Nat} (here : At start) {first : Expr} (stands : first.Stands At)
    {operations : List (Operator × Expr)} (others : ∀ operation ∈ operations, operation.2.Stands At) :
    (grouped start first operations).Stands At := by
  induction operations generalizing first with
  | nil => exact stands
  | cons operation operations ih =>
    obtain ⟨right, others⟩ := List.forall_mem_cons.mp others
    exact ih (Expr.stands_binary.mpr ⟨here, stands, right⟩) others

theorem stands_chain {start : Nat} (here : At start) {first : Expr} (stands : first.Stands At) {links : List Link}
    (others : ∀ link ∈ links, link.Stands At) : (chain start first links).Stands At := by
  induction links generalizing first with
  | nil => exact stands
  | cons link links ih =>
    obtain ⟨args, later⟩ := List.forall_mem_cons.mp others
    cases link with
    | field name => exact ih (Expr.stands_field.mpr ⟨here, stands⟩) later
    | call name => exact ih (Expr.stands_send.mpr ⟨here, stands, args⟩) later

theorem startOf_of_forall {us : List Token} (nonempty : us ≠ []) (each : ∀ t ∈ us, At t.offset) :
    At (startOf us) := by
  cases us with
  | nil => exact absurd rfl nonempty
  | cons t us => exact each t List.mem_cons_self

theorem Derives.stands {symbol : Symbol} {us : List Token} {tree : symbol.Tree} (derived : Derives symbol us tree)
    (each : ∀ t ∈ us, At t.offset) : symbol.Stands At tree := by
  induction derived with
  | source _ _ fields methods =>
    obtain ⟨inFields, inMethods⟩ := List.forall_mem_append.mp each
    exact ⟨fields inFields, methods inMethods⟩
  | fields _ _ first others =>
    obtain ⟨inFirst, inOthers⟩ := List.forall_mem_append.mp each
    exact List.forall_mem_cons.mpr ⟨first inFirst, others inOthers⟩
  | methods _ _ first others =>
    obtain ⟨inFirst, inOthers⟩ := List.forall_mem_append.mp each
    exact List.forall_mem_cons.mpr ⟨first inFirst, others inOthers⟩
  | statements _ _ first others =>
    obtain ⟨inFirst, inOthers⟩ := List.forall_mem_append.mp each
    exact List.forall_mem_cons.mpr ⟨first inFirst, others inOthers⟩
  | field _ _ _ _ _ _ clause =>
    exact ⟨each _ (by simp), clause fun t mem => each t (by simp [mem])⟩
  | method _ _ _ _ _ _ _ _ _ _ _ statements =>
    exact ⟨each _ (by simp), statements fun t mem => each t (by simp [mem])⟩
  | value _ _ expression =>
    rintro e ⟨⟩
    exact expression fun t mem => each t (by simp [mem])
  | declaration _ _ _ _ _ _ valueClause =>
    exact Stmt.stands_declaration.mpr ⟨each _ (by simp), valueClause fun t mem => each t (by simp [mem])⟩
  | conditional _ _ _ _ _ _ tested first second =>
    refine Stmt.stands_conditional.mpr ⟨⟨each _ (by simp), ?_⟩, ?_, ?_⟩
    · exact tested fun t mem => each t (by simp [mem])
    · exact first fun t mem => each t (by simp [mem])
    · exact second fun t mem => each t (by simp [mem])
  | elseClause _ _ statements => exact statements fun t mem => each t (by simp [mem])
  | forEach _ _ _ _ _ _ _ iterable body =>
    refine Stmt.stands_forEach.mpr ⟨⟨each _ (by simp), ?_⟩, ?_⟩
    · exact iterable fun t mem => each t (by simp [mem])
    · exact body fun t mem => each t (by simp [mem])
  | whileLoop _ _ _ _ _ tested body =>
    refine Stmt.stands_whileLoop.mpr ⟨⟨each _ (by simp), ?_⟩, ?_⟩
    · exact tested fun t mem => each t (by simp [mem])
    · exact body fun t mem => each t (by simp [mem])
  | returning _ _ _ value =>
    exact Stmt.stands_ret.mpr ⟨each _ (by simp), value fun t mem => each t (by simp [mem])⟩
  | expression derived _ inside =>
    have inUs := fun t mem => each t (List.mem_append_left _ mem)
    exact Stmt.stands_expression.mpr ⟨startOf_of_forall derived.begins.1 inUs, inside inUs⟩
  | @assignment _ _ us _ _ _ derived _ _ _ left right =>
    have inUs : ∀ t ∈ us, At t.offset := fun t mem => each t (by simp [mem])
    refine Stmt.stands_assignment.mpr ⟨startOf_of_forall derived.begins.1 inUs, left inUs, ?_⟩
    exact right fun t mem => each t (by simp [mem])
  | operation derived _ first others =>
    obtain ⟨inFirst, inOthers⟩ := List.forall_mem_append.mp each
    exact stands_grouped (startOf_of_forall derived.begins.1 inFirst) (first inFirst) (others inOthers)
  | operations _ _ _ _ right others =>
    refine List.forall_mem_cons.mpr ⟨?_, ?_⟩
    · exact right fun t mem => each t (by simp [mem])
    · exact others fun t mem => each t (by simp [mem])
  | secondary derived _ first others =>
    obtain ⟨inFirst, inOthers⟩ := List.forall_mem_append.mp each
    exact stands_chain (startOf_of_forall derived.begins.1 inFirst) (first inFirst) (others inOthers)
  | fieldLink _ _ _ others =>
    exact List.forall_mem_cons.mpr ⟨trivial, others fun t mem => each t (by simp [mem])⟩
  | callLink _ _ _ _ _ _ args others =>
    refine List.forall_mem_cons.mpr ⟨?_, ?_⟩
    · exact args fun t mem => each t (by simp [mem])
    · exact others fun t mem => each t (by simp [mem])
  | lastArgument _ expression => exact List.forall_mem_singleton.mpr (expression each)
  | argument _ _ _ expression others =>
    refine List.forall_mem_cons.mpr ⟨?_, ?_⟩
    · exact expression fun t mem => each t (by simp [mem])
    · exact others fun t mem => each t (by simp [mem])
  | literal => exact Expr.stands_literal.mpr (each _ List.mem_cons_self)
  | name => exact Expr.stands_ref.mpr (each _ List.mem_cons_self)
  | group _ _ _ inside =>
    exact Expr.stands_group.mpr ⟨each _ (by simp), inside fun t mem => each t (by simp [mem])⟩
  | call _ _ _ _ args =>
    exact Expr.stands_call.mpr ⟨each _ (by simp), args fun t mem => each t (by simp [mem])⟩
  -- Where a rule only names a phrase, or has no phrase inside, nothing is added.
  | comparison _ ih | additive _ ih | multiplicative _ ih | factor _ ih | arguments _ ih => exact ih each
  | noFields | noMethods | noStatements | noElse | noOperations | noLinks | noArguments =>
    exact fun _ mem => nomatch mem
  | noValue => exact fun _ absent => nomatch absent
  | noParams | params | lastParam | param | noType | type => exact True.intro

end Grammar

end Primer
