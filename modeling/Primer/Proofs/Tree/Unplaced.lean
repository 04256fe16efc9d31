import Primer.Token
import Primer.Tree

/-!
# Trees without places

What is left of a token, a tree or a program when it is forgotten where it stands: every offset is zero,
and everything else is kept, the slots included. Two texts that differ in layout alone have the same
tokens without places, and two trees are equal up to offsets when they are equal without places.
-/

namespace Primer

/-- A token without its place. -/
def Token.unplaced (t : Token) : Token :=
  { t with offset := 0 }

theorem Token.unplaced_eq_iff {t t' : Token} :
    t.unplaced = t'.unplaced ↔ t.kind = t'.kind ∧ t.literal = t'.literal := by
  cases t
  cases t'
  simp [unplaced]

mutual
/-- An expression without places. -/
@[simp]
def Expr.unplaced : Expr → Expr
  | .literal value _ type => .literal value 0 type
  | .group inner _ type => .group inner.unplaced 0 type
  | .binary op left right _ type => .binary op left.unplaced right.unplaced 0 type
  | .ref name _ binding type => .ref name 0 binding type
  | .field receiver name _ binding type => .field receiver.unplaced name 0 binding type
  | .call name args _ callee type => .call name (Expr.unplacedAll args) 0 callee type
  | .send receiver name args _ callee type =>
    .send receiver.unplaced name (Expr.unplacedAll args) 0 callee type
  | .unknown _ => .unknown 0

/-- Expressions without places. -/
@[simp]
def Expr.unplacedAll : List Expr → List Expr
  | [] => []
  | e :: es => e.unplaced :: Expr.unplacedAll es
end

mutual
/-- A statement without places. -/
@[simp]
def Stmt.unplaced : Stmt → Stmt
  | .expression e _ => .expression e.unplaced 0
  | .declaration name typeName initializer _ binding =>
    .declaration name typeName (initializer.map Expr.unplaced) 0 binding
  | .assignment target value _ => .assignment target.unplaced value.unplaced 0
  | .conditional condition thenPart elsePart _ =>
    .conditional condition.unplaced (Stmt.unplacedAll thenPart) (Stmt.unplacedAll elsePart) 0
  | .forEach name iterable body _ => .forEach name iterable.unplaced (Stmt.unplacedAll body) 0
  | .whileLoop condition body _ => .whileLoop condition.unplaced (Stmt.unplacedAll body) 0
  | .ret value _ => .ret value.unplaced 0
  | .unknown _ => .unknown 0

/-- Statements without places. -/
@[simp]
def Stmt.unplacedAll : List Stmt → List Stmt
  | [] => []
  | s :: ss => s.unplaced :: Stmt.unplacedAll ss
end

/-- A field without places. -/
def Field.unplaced (f : Field) : Field :=
  { f with initializer := f.initializer.map Expr.unplaced, offset := 0 }

/-- A method without places. -/
def Method.unplaced (m : Method) : Method :=
  { m with body := Stmt.unplacedAll m.body, offset := 0 }

/-- A program without places. -/
def Source.unplaced (s : Source) : Source :=
  { fields := s.fields.map Field.unplaced, methods := s.methods.map Method.unplaced }

end Primer
