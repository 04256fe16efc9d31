import Primer.Tree

/-!
# The parts of a tree

All expressions inside an expression and all statements inside statements, at any depth, with the phrase
itself first. What is to hold everywhere in a program is said of its parts.
-/

namespace Primer

mutual
/-- An expression and all expressions inside it. -/
def Expr.parts : Expr → List Expr
  | .literal value offset type => [.literal value offset type]
  | .group inner offset type => .group inner offset type :: inner.parts
  | .binary op left right offset type => .binary op left right offset type :: (left.parts ++ right.parts)
  | .ref name offset binding type => [.ref name offset binding type]
  | .field receiver name offset binding type => .field receiver name offset binding type :: receiver.parts
  | .call name args offset callee type => .call name args offset callee type :: Expr.partsAll args
  | .send receiver name args offset callee type =>
    .send receiver name args offset callee type :: (receiver.parts ++ Expr.partsAll args)
  | .unknown offset => [.unknown offset]

/-- All expressions inside some. -/
def Expr.partsAll : List Expr → List Expr
  | [] => []
  | e :: es => e.parts ++ Expr.partsAll es
end

mutual
/-- A statement and all statements inside it. -/
def Stmt.parts : Stmt → List Stmt
  | .conditional condition thenPart elsePart offset =>
    .conditional condition thenPart elsePart offset :: (Stmt.partsAll thenPart ++ Stmt.partsAll elsePart)
  | .forEach name iterable body offset => .forEach name iterable body offset :: Stmt.partsAll body
  | .whileLoop condition body offset => .whileLoop condition body offset :: Stmt.partsAll body
  | .expression e offset => [.expression e offset]
  | .declaration name typeName initializer offset binding =>
    [.declaration name typeName initializer offset binding]
  | .assignment target value offset => [.assignment target value offset]
  | .ret value offset => [.ret value offset]
  | .unknown offset => [.unknown offset]

/-- All statements inside some. -/
def Stmt.partsAll : List Stmt → List Stmt
  | [] => []
  | s :: ss => s.parts ++ Stmt.partsAll ss
end

/-- The expressions directly in a statement. -/
def Stmt.exprs : Stmt → List Expr
  | .expression e _ => [e]
  | .declaration _ _ initializer _ _ => initializer.toList
  | .assignment target value _ => [target, value]
  | .conditional condition _ _ _ => [condition]
  | .forEach _ iterable _ _ => [iterable]
  | .whileLoop condition _ _ => [condition]
  | .ret value _ => [value]
  | .unknown _ => []

/-- Where the first token of a statement begins. -/
def Stmt.offset : Stmt → Nat
  | .expression _ offset => offset
  | .declaration _ _ _ offset _ => offset
  | .assignment _ _ offset => offset
  | .conditional _ _ _ offset => offset
  | .forEach _ _ _ offset => offset
  | .whileLoop _ _ offset => offset
  | .ret _ offset => offset
  | .unknown offset => offset

theorem Expr.mem_parts_self (e : Expr) : e ∈ e.parts := by
  cases e <;> simp [Expr.parts]

theorem Expr.forall_partsAll {P : Expr → Prop} {es : List Expr} :
    (∀ part ∈ Expr.partsAll es, P part) ↔ ∀ e ∈ es, ∀ part ∈ e.parts, P part := by
  induction es with
  | nil => simp [Expr.partsAll]
  | cons e es ih => simp only [Expr.partsAll, List.forall_mem_append, ih, List.forall_mem_cons]

mutual
/-- The parts of a part are parts. -/
theorem Expr.parts_subset (e : Expr) : ∀ part ∈ e.parts, part.parts ⊆ e.parts := by
  cases e with
  | literal | ref | unknown => exact List.forall_mem_singleton.mpr (List.Subset.refl _)
  | group inner | field inner =>
    have inside := Expr.parts_subset inner
    exact List.forall_mem_cons.mpr ⟨List.Subset.refl _, fun part mem =>
      List.subset_cons_of_subset _ (inside part mem)⟩
  | binary op left right =>
    have first := Expr.parts_subset left
    have second := Expr.parts_subset right
    refine List.forall_mem_cons.mpr ⟨List.Subset.refl _, List.forall_mem_append.mpr ⟨?_, ?_⟩⟩
    · exact fun part mem => List.subset_cons_of_subset _ (List.subset_append_of_subset_left _ (first part mem))
    · exact fun part mem => List.subset_cons_of_subset _ (List.subset_append_of_subset_right _ (second part mem))
  | call name args =>
    have given := Expr.parts_subset_partsAll args
    exact List.forall_mem_cons.mpr ⟨List.Subset.refl _, fun part mem =>
      List.subset_cons_of_subset _ (given part mem)⟩
  | send receiver name args =>
    have object := Expr.parts_subset receiver
    have given := Expr.parts_subset_partsAll args
    refine List.forall_mem_cons.mpr ⟨List.Subset.refl _, List.forall_mem_append.mpr ⟨?_, ?_⟩⟩
    · exact fun part mem => List.subset_cons_of_subset _ (List.subset_append_of_subset_left _ (object part mem))
    · exact fun part mem => List.subset_cons_of_subset _ (List.subset_append_of_subset_right _ (given part mem))

theorem Expr.parts_subset_partsAll (es : List Expr) : ∀ part ∈ Expr.partsAll es, part.parts ⊆ Expr.partsAll es := by
  cases es with
  | nil => exact List.forall_mem_nil _
  | cons e es =>
    have first := Expr.parts_subset e
    have others := Expr.parts_subset_partsAll es
    refine List.forall_mem_append.mpr ⟨?_, ?_⟩
    · exact fun part mem => List.subset_append_of_subset_left _ (first part mem)
    · exact fun part mem => List.subset_append_of_subset_right _ (others part mem)
end

theorem Stmt.mem_parts_self (s : Stmt) : s ∈ s.parts := by
  cases s <;> simp [Stmt.parts]

theorem Stmt.forall_partsAll {P : Stmt → Prop} {ss : List Stmt} :
    (∀ part ∈ Stmt.partsAll ss, P part) ↔ ∀ s ∈ ss, ∀ part ∈ s.parts, P part := by
  induction ss with
  | nil => simp [Stmt.partsAll]
  | cons s ss ih => simp only [Stmt.partsAll, List.forall_mem_append, ih, List.forall_mem_cons]

namespace Source

/-- All statements of a program. -/
def statements (s : Source) : List Stmt :=
  s.methods.flatMap fun m => Stmt.partsAll m.body

/-- All expressions of a program. -/
def expressions (s : Source) : List Expr :=
  (s.fields.flatMap fun f => f.initializer.toList.flatMap Expr.parts) ++
    s.statements.flatMap fun p => p.exprs.flatMap Expr.parts

variable {s : Source}

theorem forall_statements {P : Stmt → Prop} :
    (∀ p ∈ s.statements, P p) ↔ ∀ m ∈ s.methods, ∀ whole ∈ m.body, ∀ p ∈ whole.parts, P p := by
  simp only [statements, List.forall_mem_flatMap, Stmt.forall_partsAll]

theorem forall_expressions {P : Expr → Prop} :
    (∀ e ∈ s.expressions, P e) ↔
      (∀ f ∈ s.fields, ∀ whole ∈ f.initializer, ∀ e ∈ whole.parts, P e) ∧
        ∀ p ∈ s.statements, ∀ whole ∈ p.exprs, ∀ e ∈ whole.parts, P e := by
  simp only [expressions, List.forall_mem_append, List.forall_mem_flatMap, Option.mem_toList, Option.mem_def]

/-- The parts of an expression of a program are expressions of it. -/
theorem parts_subset_expressions : ∀ e ∈ s.expressions, e.parts ⊆ s.expressions := by
  have inside := forall_expressions.mp fun e (mem : e ∈ s.expressions) => mem
  refine forall_expressions.mpr ⟨fun f mem whole isValue e isPart => ?_, fun p mem whole direct e isPart => ?_⟩
  · exact List.Subset.trans (whole.parts_subset e isPart) (inside.1 f mem whole isValue)
  · exact List.Subset.trans (whole.parts_subset e isPart) (inside.2 p mem whole direct)

end Source

end Primer
