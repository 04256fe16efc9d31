import Primer.Check.Program
import Primer.Proofs.Tree.Bare

/-!
# Checking fills slots and nothing else

**The law** (`bare_expr` to `bare_checkSource`): a check changes the slots of a tree alone, also when it ends
early.
-/

namespace Primer

namespace Check

/-! ## Expressions -/

theorem bare_settleType {phrase : SlottedPhrase} {slot : Option Ty} {t : Ty} {tree : Option Ty → Expr} {e : Expr}
    (told : ∀ type, (tree type).bare = e.bare) : (settleType phrase slot t tree).1.bare = e.bare := by
  cases slot with
  | some _ => exact told _
  | none => exact told _

theorem bare_settleVariable {binding : Option Variable} {type : Option Ty} {v : Variable}
    {tree : Option Variable → Option Ty → Expr} {e : Expr} (told : ∀ binding type, (tree binding type).bare = e.bare) :
    (settleVariable binding type v tree).1.bare = e.bare := by
  cases binding with
  | some _ => exact told _ _
  | none => exact bare_settleType (told _)

theorem bare_settleFunction {callee : Option Function} {type : Option Ty} {f : Function}
    {tree : Option Function → Option Ty → Expr} {e : Expr} (told : ∀ callee type, (tree callee type).bare = e.bare) :
    (settleFunction callee type f tree).1.bare = e.bare := by
  cases callee with
  | some _ => exact told _ _
  | none => exact bare_settleType (told _)

variable {catalog : Catalog} {space : Space} {scope : ScopeId}

mutual
theorem bare_expr (e : Expr) : (expr catalog space scope e).1.bare = e.bare := by
  cases e with
  | literal value offset type =>
    rw [expr]
    split
    next => rfl
    next => exact bare_settleType fun _ => rfl
  | group inner offset type =>
    have inside := bare_expr inner
    rw [expr]
    split
    next =>
      split
      next checked =>
        rw [checked] at inside
        simp [inside]
      next checked =>
        rw [checked] at inside
        exact bare_settleType fun _ => by simp [inside]
    next => rfl
  | binary op left right offset type =>
    have first := bare_expr left
    have second := bare_expr right
    rw [expr]
    split
    next checked =>
      rw [checked] at first
      simp [first]
    next checkedLeft =>
      rw [checkedLeft] at first
      split
      next checked =>
        rw [checked] at second
        simp [first, second]
      next checked =>
        rw [checked] at second
        split
        next => simp [first, second]
        next => exact bare_settleType fun _ => by simp [first, second]
  | ref name offset binding type =>
    rw [expr]
    split
    next => rfl
    next => exact bare_settleVariable fun _ _ => rfl
  | field receiver name offset binding type =>
    have object := bare_expr receiver
    rw [expr]
    split
    next checked =>
      rw [checked] at object
      simp [object]
    next checked =>
      rw [checked] at object
      split
      next => simp [object]
      next => exact bare_settleVariable fun _ _ => by simp [object]
  | call name args offset callee type =>
    have given := bare_exprs args
    rw [expr]
    split
    next checked =>
      rw [checked] at given
      simp [given]
    next checked =>
      rw [checked] at given
      split
      next => simp [given]
      next =>
        split
        next => simp [given]
        next => exact bare_settleFunction fun _ _ => by simp [given]
  | send receiver name args offset callee type =>
    have given := bare_exprs args
    have object := bare_expr receiver
    rw [expr]
    split
    next checked =>
      rw [checked] at given
      simp [given]
    next checkedArgs =>
      rw [checkedArgs] at given
      split
      next checked =>
        rw [checked] at object
        simp [given, object]
      next checked =>
        rw [checked] at object
        split
        next => simp [given, object]
        next =>
          split
          next => simp [given, object]
          next => exact bare_settleFunction fun _ _ => by simp [given, object]
  | unknown offset => rfl

theorem bare_exprs (es : List Expr) : Expr.bareAll (exprs catalog space scope es).1 = Expr.bareAll es := by
  cases es with
  | nil => rfl
  | cons e es =>
    have first := bare_expr e
    have others := bare_exprs es
    rw [exprs]
    split
    next checked =>
      rw [checked] at first
      simp [first]
    next checkedFirst =>
      rw [checkedFirst] at first
      split
      next checked =>
        rw [checked] at others
        simp [first, others]
      next checked =>
        rw [checked] at others
        simp [first, others]
end

/-! ## Statements -/

theorem bare_condition (e : Expr) : (condition catalog space scope e).1.bare = e.bare := by
  have checked := @bare_expr catalog space scope e
  unfold condition
  split
  all_goals
    next same =>
      rw [same] at checked
      exact checked

theorem bare_bindDeclaration {name : String} {type : Ty} {offset : Nat} {binding : Option Variable}
    {tree : Option Variable → Stmt} {s : Stmt} (told : ∀ binding, (tree binding).bare = s.bare) :
    (bindDeclaration space scope name type offset binding tree).tree.bare = s.bare := by
  unfold bindDeclaration
  split
  next => exact told _
  next =>
    cases binding with
    | some _ => exact told _
    | none => exact told _

theorem bare_declaration (name : String) (typeName : Option String) (initializer : Option Expr) (offset : Nat)
    (binding : Option Variable) :
    (declaration catalog space scope name typeName initializer offset binding).tree.bare =
      (Stmt.declaration name typeName initializer offset binding).bare := by
  unfold declaration
  cases initializer with
  | none =>
    dsimp only
    split
    next => rfl
    next => rfl
    next => exact bare_bindDeclaration fun _ => rfl
  | some value =>
    have inside := @bare_expr catalog space scope value
    dsimp only
    split
    next checked =>
      rw [checked] at inside
      simp [Checked.fail, inside]
    next checked =>
      rw [checked] at inside
      split
      next => simp [Checked.fail, inside]
      next => simp [Checked.fail, inside]
      next => exact bare_bindDeclaration fun _ => by simp [inside]

theorem bare_assignment (target value : Expr) (offset : Nat) :
    (assignment catalog space scope target value offset).tree.bare = (Stmt.assignment target value offset).bare := by
  have left := @bare_expr catalog space scope target
  have right := @bare_expr catalog space scope value
  unfold assignment
  split
  next =>
    split
    next checked =>
      rw [checked] at left
      simp [Checked.fail, left]
    next checkedTarget =>
      rw [checkedTarget] at left
      split
      next checked =>
        rw [checked] at right
        simp [Checked.fail, left, right]
      next checked =>
        rw [checked] at right
        simp [left, right]
  next => rfl

mutual
theorem bare_stmt (space : Space) (scope : ScopeId) (s : Stmt) :
    (stmt catalog space scope s).tree.bare = s.bare := by
  cases s with
  | expression e offset =>
    have inside := @bare_expr catalog space scope e
    rw [stmt]
    split
    next =>
      split
      next checked =>
        rw [checked] at inside
        simp [Checked.fail, inside]
      next checked =>
        rw [checked] at inside
        simp [Checked.pass, inside]
    next => rfl
  | declaration name typeName initializer offset binding =>
    rw [stmt]
    exact bare_declaration name typeName initializer offset binding
  | assignment target value offset =>
    rw [stmt]
    exact bare_assignment target value offset
  | conditional c thenPart elsePart offset =>
    have tested := @bare_condition catalog space scope c
    rw [stmt]
    split
    next checked =>
      rw [checked] at tested
      simp [Checked.fail, tested]
    next checked =>
      rw [checked] at tested
      split
      next => simp [Checked.fail, tested]
      next =>
        have first := bare_block (space.child scope).1 (space.child scope).2 thenPart
        dsimp only
        split
        next checked =>
          rw [checked] at first
          simp [Checked.fail, tested, first]
        next between _ checked =>
          rw [checked] at first
          have second := bare_block (between.child scope).1 (between.child scope).2 elsePart
          simp [Checked.map, tested, first, second]
  | forEach name iterable body offset =>
    have iterates := @bare_expr catalog space scope iterable
    rw [stmt]
    split
    next checked =>
      rw [checked] at iterates
      simp [Checked.fail, iterates]
    next checked =>
      rw [checked] at iterates
      split
      next => simp [Checked.fail, iterates]
      next =>
        split
        next => simp [Checked.fail, iterates]
        next =>
          dsimp only
          split
          next => simp [Checked.fail, iterates]
          next between _ _ =>
            have inside := bare_block between (space.child scope).2 body
            simp [Checked.map, iterates, inside]
  | whileLoop c body offset =>
    have tested := @bare_condition catalog space scope c
    have inside := bare_block (space.child scope).1 (space.child scope).2 body
    rw [stmt]
    split
    next checked =>
      rw [checked] at tested
      simp [Checked.fail, tested]
    next checked =>
      rw [checked] at tested
      simp [Checked.map, tested, inside]
  | ret value offset =>
    have given := @bare_expr catalog space scope value
    rw [stmt]
    split
    next checked =>
      rw [checked] at given
      simp [Checked.fail, given]
    next checked =>
      rw [checked] at given
      simp [Checked.pass, given]
  | unknown offset =>
    rw [stmt]
    rfl

theorem bare_block (space : Space) (scope : ScopeId) (ss : List Stmt) :
    Stmt.bareAll (block catalog space scope ss).tree = Stmt.bareAll ss := by
  cases ss with
  | nil =>
    rw [block]
    rfl
  | cons s ss =>
    have first := bare_stmt space scope s
    rw [block]
    split
    next checked =>
      rw [checked] at first
      simp [Checked.fail, first]
    next between _ checked =>
      rw [checked] at first
      have others := bare_block between scope ss
      simp [Checked.map, first, others]
end

/-! ## Programs -/

theorem bare_initializer (wanted : Ty) (value : Option Expr) :
    (initializer catalog space scope wanted value).1.map Expr.bare = value.map Expr.bare := by
  cases value with
  | none => rfl
  | some e =>
    have inside := @bare_expr catalog space scope e
    rw [initializer]
    split
    all_goals
      next checked =>
        rw [checked] at inside
        exact congrArg some inside

theorem bare_field (space : Space) (f : Field) : (field catalog space scope f).tree.bare = f.bare := by
  unfold field
  split
  next => rfl
  next wanted _ =>
    have inside := @bare_initializer catalog space scope wanted f.initializer
    split
    next checked =>
      rw [checked] at inside
      simp [Checked.fail, Field.bare, inside]
    next checked =>
      rw [checked] at inside
      dsimp only
      split
      next => simp [Checked.fail, Field.bare, inside]
      next =>
        split
        next => simp [Checked.fail, Field.bare, inside]
        next => simp [Checked.pass, Field.bare, inside]

theorem bare_methodBody (space : Space) (params : List Ty) (result : Ty) (m : Method) :
    (methodBody catalog space scope params result m).tree.bare = m.bare := by
  unfold methodBody
  dsimp only
  split
  next => rfl
  next between _ =>
    have inside := @bare_block catalog between (space.child scope).2 m.body
    split
    next checked =>
      rw [checked] at inside
      simp [Checked.fail, Method.bare, inside]
    next checked =>
      rw [checked] at inside
      simp [Method.bare, inside]

theorem bare_method (space : Space) (m : Method) : (method catalog space scope m).tree.bare = m.bare := by
  unfold method
  split
  next => rfl
  next =>
    split
    next => rfl
    next =>
      split
      next => rfl
      next => exact bare_methodBody _ _ _ _

/-- What a check leaves alone in each of a list it leaves alone in the list. -/
theorem map_each {τ υ : Type} {check : Space → τ → Checked τ} {view : τ → υ}
    (kept : ∀ space x, view (check space x).tree = view x) (space : Space) (xs : List τ) :
    (each check space xs).tree.map view = xs.map view := by
  induction xs generalizing space with
  | nil => rfl
  | cons x xs ih =>
    have first := kept space x
    rw [each]
    split
    next checked =>
      rw [checked] at first
      simp [Checked.fail, first]
    next between _ checked =>
      rw [checked] at first
      simp [Checked.map, first, ih between]

theorem bare_source (needsMain : Bool) (s : Source) :
    (source catalog needsMain space scope s).tree.bare = s.bare := by
  have fields := map_each (fun space f => @bare_field catalog scope space f) space s.fields
  unfold source
  split
  next checked =>
    rw [checked] at fields
    simp [Checked.fail, Source.bare, fields]
  next between _ checked =>
    rw [checked] at fields
    have methods := map_each (fun space m => @bare_method catalog scope space m) between s.methods
    split
    next checked =>
      rw [checked] at methods
      simp [Checked.fail, Source.bare, fields, methods]
    next checked =>
      rw [checked] at methods
      simp [Source.bare, fields, methods]

theorem bare_checkSource (catalog : Catalog) (needsMain : Bool) (space : Space) (outer : ScopeId) (s : Source) :
    (checkSource catalog needsMain space outer s).tree.bare = s.bare :=
  bare_source needsMain s

end Check

end Primer
