import Primer.Java
import Primer.Proofs.Tree.Unplaced

/-!
# The Java text of a program does not depend on places

**The law** (`source_unplaced`): a program without places is written as the program is.
-/

namespace Primer.Java

mutual
theorem expr_unplaced (e : Expr) : expr e.unplaced = expr e := by
  cases e with
  | literal value offset type => rfl
  | group inner offset type => rw [Expr.unplaced, expr, expr, expr_unplaced inner]
  | binary op left right offset type =>
    rw [Expr.unplaced, expr, expr, expr_unplaced left, expr_unplaced right]
  | ref name offset binding type => rfl
  | field receiver name offset binding type => rw [Expr.unplaced, expr, expr, expr_unplaced receiver]
  | call name args offset callee type => rw [Expr.unplaced, expr, expr, exprs_unplaced args]
  | send receiver name args offset callee type =>
    rw [Expr.unplaced, expr, expr, expr_unplaced receiver, exprs_unplaced args]
  | unknown offset => rfl

theorem exprs_unplaced (es : List Expr) : exprs (Expr.unplacedAll es) = exprs es := by
  cases es with
  | nil => rfl
  | cons e es => rw [Expr.unplacedAll, exprs, exprs, expr_unplaced e, exprs_unplaced es]
end

theorem declaration_unplaced (binding : Option Variable) (initializer : Option Expr) :
    declaration binding (initializer.map Expr.unplaced) = declaration binding initializer := by
  cases initializer with
  | none => rfl
  | some e => simp only [declaration, Option.map_some, expr_unplaced]

mutual
theorem stmt_unplaced (depth : Nat) (s : Stmt) : stmt depth s.unplaced = stmt depth s := by
  cases s with
  | expression e offset => rw [Stmt.unplaced, stmt, stmt, expr_unplaced]
  | declaration name typeName initializer offset binding => exact declaration_unplaced binding initializer
  | assignment target value offset => rw [Stmt.unplaced, stmt, stmt, expr_unplaced, expr_unplaced]
  | conditional condition thenPart elsePart offset =>
    have sameEmpty : (Stmt.unplacedAll elsePart).isEmpty = elsePart.isEmpty := by cases elsePart <;> rfl
    rw [Stmt.unplaced, stmt, stmt, expr_unplaced, block_unplaced depth thenPart, block_unplaced depth elsePart,
      sameEmpty]
  | forEach name iterable body offset =>
    rw [Stmt.unplaced, stmt, stmt, expr_unplaced, block_unplaced depth body]
  | whileLoop condition body offset =>
    rw [Stmt.unplaced, stmt, stmt, expr_unplaced, block_unplaced depth body]
  | ret value offset => rw [Stmt.unplaced, stmt, stmt, expr_unplaced]
  | unknown offset => rfl

theorem block_unplaced (depth : Nat) (ss : List Stmt) : block depth (Stmt.unplacedAll ss) = block depth ss := by
  cases ss with
  | nil => rfl
  | cons s ss => rw [Stmt.unplacedAll, block, block, stmt_unplaced (depth + 1) s, lines_unplaced (depth + 1) ss]

theorem lines_unplaced (depth : Nat) (ss : List Stmt) : lines depth (Stmt.unplacedAll ss) = lines depth ss := by
  cases ss with
  | nil => rfl
  | cons s ss => rw [Stmt.unplacedAll, lines, lines, stmt_unplaced depth s, lines_unplaced depth ss]
end

theorem field_unplaced (f : Field) : field f.unplaced = field f :=
  declaration_unplaced f.binding f.initializer

theorem method_unplaced (depth : Nat) (m : Method) : method depth m.unplaced = method depth m := by
  simp only [method, Method.unplaced, block_unplaced]

theorem source_unplaced (s : Source) : source s.unplaced = source s := by
  have sameFields : fields (s.fields.map Field.unplaced) = fields s.fields := by
    simp only [fields, List.isEmpty_map, List.mapM_map, Function.comp_def, field_unplaced]
  have sameMethods : (s.methods.map Method.unplaced).mapM (method 1) = s.methods.mapM (method 1) := by
    simp only [List.mapM_map, Function.comp_def, method_unplaced]
  simp only [source, Source.unplaced, sameFields, sameMethods]

end Primer.Java
