import Primer.Proofs.Tree.Parts

/-!
# Trees without slots

What is left of a tree when all that checking settles is taken out of it: every slot is empty, and everything
else is kept. Two expressions of one form may be told apart by their slots only, so what holds of an
expression for its form holds of its bare form as well.
-/

namespace Primer

namespace Expr

mutual
/-- An expression with all slots empty. -/
@[simp]
def bare : Expr → Expr
  | literal value offset _ => .literal value offset
  | group inner offset _ => .group inner.bare offset
  | binary op left right offset _ => .binary op left.bare right.bare offset
  | ref name offset _ _ => .ref name offset
  | field receiver name offset _ _ => .field receiver.bare name offset
  | call name args offset _ _ => .call name (bareAll args) offset
  | send receiver name args offset _ _ => .send receiver.bare name (bareAll args) offset
  | unknown offset => .unknown offset

/-- Expressions with all slots empty. -/
@[simp]
def bareAll : List Expr → List Expr
  | [] => []
  | e :: es => e.bare :: bareAll es
end

mutual
theorem parts_bare (e : Expr) : e.bare.parts = e.parts.map bare := by
  cases e with
  | literal | ref | unknown => rfl
  | group inner => simp [parts, parts_bare inner]
  | binary op left right => simp [parts, parts_bare left, parts_bare right]
  | field receiver => simp [parts, parts_bare receiver]
  | call name args => simp [parts, partsAll_bareAll args]
  | send receiver name args => simp [parts, parts_bare receiver, partsAll_bareAll args]

theorem partsAll_bareAll (es : List Expr) : partsAll (bareAll es) = (partsAll es).map bare := by
  cases es with
  | nil => rfl
  | cons e es => simp [partsAll, parts_bare e, partsAll_bareAll es]
end

/-- What is told by its form of each part holds in two expressions of one bare form or in neither. -/
theorem forall_parts_iff {P : Expr → Prop} (told : ∀ e : Expr, P e.bare ↔ P e) {e e' : Expr}
    (same : e.bare = e'.bare) : (∀ part ∈ e.parts, P part) ↔ ∀ part ∈ e'.parts, P part := by
  have bared : ∀ e : Expr, (∀ part ∈ e.parts, P part) ↔ ∀ part ∈ e.bare.parts, P part := by
    intro e
    rw [parts_bare]
    simp [told]
  rw [bared e, bared e', same]

end Expr

namespace Stmt

mutual
/-- A statement with all slots empty. -/
@[simp]
def bare : Stmt → Stmt
  | expression e offset => .expression e.bare offset
  | declaration name typeName initializer offset _ => .declaration name typeName (initializer.map Expr.bare) offset
  | assignment target value offset => .assignment target.bare value.bare offset
  | conditional condition thenPart elsePart offset =>
    .conditional condition.bare (bareAll thenPart) (bareAll elsePart) offset
  | forEach name iterable body offset => .forEach name iterable.bare (bareAll body) offset
  | whileLoop condition body offset => .whileLoop condition.bare (bareAll body) offset
  | ret value offset => .ret value.bare offset
  | unknown offset => .unknown offset

/-- Statements with all slots empty. -/
@[simp]
def bareAll : List Stmt → List Stmt
  | [] => []
  | s :: ss => s.bare :: bareAll ss
end

theorem exprs_bare (s : Stmt) : s.bare.exprs = s.exprs.map Expr.bare := by
  cases s with
  | declaration _ _ initializer => cases initializer <;> rfl
  | _ => rfl

mutual
theorem parts_bare (s : Stmt) : s.bare.parts = s.parts.map bare := by
  cases s with
  | expression | declaration | assignment | ret | unknown => rfl
  | conditional condition thenPart elsePart => simp [parts, partsAll_bareAll thenPart, partsAll_bareAll elsePart]
  | forEach name iterable body | whileLoop condition body => simp [parts, partsAll_bareAll body]

theorem partsAll_bareAll (ss : List Stmt) : partsAll (bareAll ss) = (partsAll ss).map bare := by
  cases ss with
  | nil => rfl
  | cons s ss => simp [partsAll, parts_bare s, partsAll_bareAll ss]
end

end Stmt

/-- A field with all slots empty. -/
def Field.bare (f : Field) : Field :=
  { f with initializer := f.initializer.map Expr.bare, binding := none }

/-- A method with all slots empty. -/
def Method.bare (m : Method) : Method :=
  { m with body := Stmt.bareAll m.body, callee := none }

/-- A program with all slots empty. -/
def Source.bare (s : Source) : Source where
  fields := s.fields.map Field.bare
  methods := s.methods.map Method.bare

namespace Source

theorem expressions_bare (s : Source) : s.bare.expressions = s.expressions.map Expr.bare := by
  have statements : s.bare.statements = s.statements.map Stmt.bare := by
    simp [Source.statements, bare, Method.bare, List.flatMap_map, List.map_flatMap, Stmt.partsAll_bareAll]
  have initial : ∀ f : Field, f.bare.initializer.toList = f.initializer.toList.map Expr.bare := by
    intro f
    cases same : f.initializer <;> simp [Field.bare, same]
  have fields : s.bare.fields = s.fields.map Field.bare := rfl
  simp [expressions, statements, fields, initial, List.flatMap_map, List.map_flatMap, Stmt.exprs_bare, Expr.parts_bare]

/-- What is told by its form of each expression holds in two programs of one bare form or in neither. -/
theorem forall_expressions_iff {P : Expr → Prop} (told : ∀ e : Expr, P e.bare ↔ P e) {s s' : Source}
    (same : s.bare = s'.bare) : (∀ e ∈ s.expressions, P e) ↔ ∀ e ∈ s'.expressions, P e := by
  have bared : ∀ s : Source, (∀ e ∈ s.expressions, P e) ↔ ∀ e ∈ s.bare.expressions, P e := by
    intro s
    rw [expressions_bare]
    simp [told]
  rw [bared s, bared s', same]

end Source

end Primer
