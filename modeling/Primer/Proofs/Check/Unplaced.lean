import Primer.Check.Program
import Primer.Proofs.Tree.Unplaced

/-!
# Checks do not look at places

A check reads the offsets of a tree for one purpose: to say where a complaint is. Checked without places, a
tree gets the same slots settled and the same space, and ends the same way but for the offset of the
complaint.

**The law** (`source_unplaced`): to check a program without places is to check it and to forget the
places, also those of the complaint.
-/

namespace Primer

/-- A reason to end a check, without the place. -/
def CheckError.unplaced : CheckError → CheckError
  | complaint c _ => complaint c 0
  | e => e

namespace Check

/-- How a check ended, without places. -/
def unplacedEnd {α : Type} (r : Except CheckError α) : Except CheckError α :=
  r.mapError CheckError.unplaced

@[simp]
theorem unplacedEnd_ok {α : Type} (a : α) : unplacedEnd (.ok a) = .ok a :=
  rfl

@[simp]
theorem unplacedEnd_error {α : Type} (problem : CheckError) :
    unplacedEnd (.error problem : Except CheckError α) = .error problem.unplaced :=
  rfl

/-- The answer about an expression, without places. -/
def unplacedExpr (r : Expr × Except CheckError Ty) : Expr × Except CheckError Ty :=
  (r.1.unplaced, unplacedEnd r.2)

theorem offset_unplaced (e : Expr) : e.unplaced.offset = 0 := by
  cases e <;> rfl

theorem isBinary_unplaced (e : Expr) : isBinary e.unplaced = isBinary e := by
  cases e <;> rfl

theorem isCall_unplaced (e : Expr) : isCall e.unplaced = isCall e := by
  cases e <;> rfl

theorem isAccess_unplaced (e : Expr) : isAccess e.unplaced = isAccess e := by
  cases e <;> rfl

theorem require_unplaced (wanted given : Ty) (offset : Nat) :
    wanted.require given 0 = unplacedEnd (wanted.require given offset) := by
  unfold Ty.require
  split <;> rfl

theorem named_unplaced (name : String) (offset : Nat) : Ty.named name 0 = unplacedEnd (Ty.named name offset) := by
  unfold Ty.named
  split <;> rfl

theorem literalType_unplaced (value : Value) (offset : Nat) :
    literalType value 0 = unplacedEnd (literalType value offset) := by
  unfold literalType
  repeat' split
  all_goals rfl

theorem unplacedEnd_bind {α β : Type} (x : Except CheckError α) (f : α → Except CheckError β) :
    unplacedEnd (x >>= f) = unplacedEnd x >>= fun a => unplacedEnd (f a) := by
  cases x <;> rfl

theorem operationType_unplaced (op : Operator) (left right : Ty) (leftOffset rightOffset offset : Nat) :
    operationType op left right 0 0 0 =
      unplacedEnd (operationType op left right leftOffset rightOffset offset) := by
  cases op with
  | and | or =>
    simp only [operationType, unplacedEnd_bind, ← require_unplaced]
    rfl
  | lt | le | gt | ge | eq | ne =>
    simp only [operationType, unplacedEnd_bind, ← require_unplaced]
    split <;> rfl
  | add | sub | mul | div =>
    simp only [operationType]
    repeat' split
    all_goals rfl
  | other symbol => rfl

theorem requireAll_unplaced (args : List Expr) (params types : List Ty) :
    requireAll (Expr.unplacedAll args) params types = unplacedEnd (requireAll args params types) := by
  induction args generalizing params types with
  | nil => rfl
  | cons arg args ih =>
    cases params with
    | nil => rfl
    | cons wanted params =>
      cases types with
      | nil => rfl
      | cons given types =>
        rw [Expr.unplacedAll, requireAll, requireAll, unplacedEnd_bind, offset_unplaced, ← require_unplaced]
        simp only [ih]

section

variable {type : Option Ty}

theorem settleType_unplaced (phrase : SlottedPhrase) (t : Ty) {tree tree' : Option Ty → Expr}
    (same : ∀ slot, tree' slot = (tree slot).unplaced) :
    settleType phrase type t tree' = unplacedExpr (settleType phrase type t tree) := by
  cases type <;> simp [settleType, unplacedExpr, same, CheckError.unplaced]

theorem settleVariable_unplaced {binding : Option Variable} (v : Variable)
    {tree tree' : Option Variable → Option Ty → Expr} (same : ∀ b t, tree' b t = (tree b t).unplaced) :
    settleVariable binding type v tree' = unplacedExpr (settleVariable binding type v tree) := by
  cases binding with
  | some b => simp [settleVariable, unplacedExpr, same, CheckError.unplaced]
  | none => exact settleType_unplaced .access v.type (same (some v))

theorem settleFunction_unplaced {callee : Option Function} (f : Function)
    {tree tree' : Option Function → Option Ty → Expr} (same : ∀ c t, tree' c t = (tree c t).unplaced) :
    settleFunction callee type f tree' = unplacedExpr (settleFunction callee type f tree) := by
  cases callee with
  | some c => simp [settleFunction, unplacedExpr, same, CheckError.unplaced]
  | none => exact settleType_unplaced .call f.result (same (some f))

end

variable (catalog : Catalog) (space : Space) (scope : ScopeId)

/-- Answers about expressions, without places. -/
def unplacedExprs (r : List Expr × Except CheckError (List Ty)) : List Expr × Except CheckError (List Ty) :=
  (Expr.unplacedAll r.1, unplacedEnd r.2)

mutual
theorem expr_unplaced (e : Expr) :
    expr catalog space scope e.unplaced = unplacedExpr (expr catalog space scope e) := by
  cases e with
  | literal value offset type =>
    rw [Expr.unplaced, expr, expr, literalType_unplaced value offset]
    cases literalType value offset with
    | error e => rfl
    | ok t => exact settleType_unplaced .literal t fun _ => rfl
  | group inner offset type =>
    rw [Expr.unplaced, expr, expr, isBinary_unplaced, expr_unplaced inner]
    split
    next =>
      rcases expr catalog space scope inner with ⟨inner, e | t⟩
      · rfl
      · exact settleType_unplaced .group t fun _ => rfl
    next => rfl
  | binary op left right offset type =>
    rw [Expr.unplaced, expr, expr, expr_unplaced left]
    rcases expr catalog space scope left with ⟨left, e | leftType⟩
    · rfl
    dsimp only [unplacedExpr, unplacedEnd_ok, unplacedEnd_error]
    rw [expr_unplaced right]
    rcases expr catalog space scope right with ⟨right, e | rightType⟩
    · rfl
    dsimp only [unplacedExpr, unplacedEnd_ok, unplacedEnd_error]
    rw [offset_unplaced, offset_unplaced,
      operationType_unplaced op leftType rightType left.offset right.offset offset]
    cases operationType op leftType rightType left.offset right.offset offset with
    | error e => rfl
    | ok t => exact settleType_unplaced .binary t fun _ => rfl
  | ref name offset binding type =>
    rw [Expr.unplaced, expr, expr]
    cases space.lookupVariable? scope name with
    | none => rfl
    | some v => exact settleVariable_unplaced v fun _ _ => rfl
  | field receiver name offset binding type =>
    rw [Expr.unplaced, expr, expr, expr_unplaced receiver]
    rcases expr catalog space scope receiver with ⟨receiver, e | t⟩
    · rfl
    dsimp only [unplacedExpr, unplacedEnd_ok, unplacedEnd_error]
    cases catalog.field? t name with
    | none => rfl
    | some v => exact settleVariable_unplaced v fun _ _ => rfl
  | call name args offset callee type =>
    rw [Expr.unplaced, expr, expr, exprs_unplaced args]
    rcases exprs catalog space scope args with ⟨args, e | types⟩
    · rfl
    dsimp only [unplacedExprs, unplacedEnd_ok, unplacedEnd_error]
    cases space.lookupFunction? scope name types.length with
    | none => rfl
    | some f =>
      dsimp only
      rw [requireAll_unplaced]
      cases requireAll args f.params types with
      | error e => rfl
      | ok _ => exact settleFunction_unplaced f fun _ _ => rfl
  | send receiver name args offset callee type =>
    rw [Expr.unplaced, expr, expr, exprs_unplaced args]
    rcases exprs catalog space scope args with ⟨args, e | types⟩
    · rfl
    dsimp only [unplacedExprs, unplacedEnd_ok, unplacedEnd_error]
    rw [expr_unplaced receiver]
    rcases expr catalog space scope receiver with ⟨receiver, e | t⟩
    · rfl
    dsimp only [unplacedExpr, unplacedEnd_ok, unplacedEnd_error]
    cases catalog.method? t name types.length with
    | none => rfl
    | some f =>
      dsimp only
      rw [requireAll_unplaced]
      cases requireAll args (f.params.drop 1) types with
      | error e => rfl
      | ok _ => exact settleFunction_unplaced f fun _ _ => rfl
  | unknown offset => rfl

theorem exprs_unplaced (es : List Expr) :
    exprs catalog space scope (Expr.unplacedAll es) = unplacedExprs (exprs catalog space scope es) := by
  cases es with
  | nil => rfl
  | cons e es =>
    rw [Expr.unplacedAll, exprs, exprs, expr_unplaced e]
    rcases expr catalog space scope e with ⟨e, problem | t⟩
    · rfl
    dsimp only [unplacedExpr, unplacedEnd_ok, unplacedEnd_error]
    rw [exprs_unplaced es]
    rcases exprs catalog space scope es with ⟨es, problem | ts⟩ <;> rfl
end

/-! ## Statements -/

/-- The answer of a check, with a tree without places. -/
def unplacedChecked {τ : Type} (forget : τ → τ) (c : Checked τ) : Checked τ :=
  { space := c.space, tree := forget c.tree, result := unplacedEnd c.result }

theorem declaredType_unplaced (typeName : Option String) (value : Option (Ty × Nat)) (offset : Nat) :
    declaredType typeName (value.map fun v => (v.1, 0)) 0 =
      (declaredType typeName value offset).map unplacedEnd := by
  match typeName, value with
  | none, none => rfl
  | none, some (given, valueOffset) => rfl
  | some name, none => exact congrArg some (named_unplaced name offset)
  | some name, some (given, valueOffset) =>
    simp only [declaredType, Option.map_some, unplacedEnd_bind, ← require_unplaced,
      ← named_unplaced name offset]
    rfl

theorem bindDeclaration_unplaced (name : String) (type : Ty) (offset : Nat) (binding : Option Variable)
    {tree tree' : Option Variable → Stmt} (same : ∀ slot, tree' slot = (tree slot).unplaced) :
    bindDeclaration space scope name type 0 binding tree' =
      unplacedChecked Stmt.unplaced (bindDeclaration space scope name type offset binding tree) := by
  unfold bindDeclaration
  cases space.declareVariable? scope name type with
  | none => simp [Checked.fail, unplacedChecked, same, CheckError.unplaced]
  | some made =>
    cases binding <;>
      simp [Checked.fail, Checked.pass, unplacedChecked, same, CheckError.unplaced]

theorem declaration_unplaced (name : String) (typeName : Option String) (initializer : Option Expr)
    (offset : Nat) (binding : Option Variable) :
    declaration catalog space scope name typeName (initializer.map Expr.unplaced) 0 binding =
      unplacedChecked Stmt.unplaced
        (declaration catalog space scope name typeName initializer offset binding) := by
  cases initializer with
  | none =>
    rw [Option.map_none, declaration, declaration]
    rw [show declaredType typeName none 0 = _ from declaredType_unplaced typeName none offset]
    rcases declaredType typeName none offset with _ | _ | type
    · rfl
    · rfl
    · exact bindDeclaration_unplaced space scope name type offset binding fun _ => rfl
  | some value =>
    rw [Option.map_some, declaration, declaration, expr_unplaced]
    rcases expr catalog space scope value with ⟨value, e | given⟩
    · rfl
    dsimp only [unplacedExpr, unplacedEnd_ok, unplacedEnd_error]
    rw [offset_unplaced, show declaredType typeName (some (given, 0)) 0 = _ from
      declaredType_unplaced typeName (some (given, value.offset)) offset]
    rcases declaredType typeName (some (given, value.offset)) offset with _ | _ | type
    · rfl
    · rfl
    · exact bindDeclaration_unplaced space scope name type offset binding fun _ => rfl

theorem assignment_unplaced (target value : Expr) (offset : Nat) :
    assignment catalog space scope target.unplaced value.unplaced 0 =
      unplacedChecked Stmt.unplaced (assignment catalog space scope target value offset) := by
  unfold assignment
  rw [isAccess_unplaced, expr_unplaced]
  split
  next =>
    rcases expr catalog space scope target with ⟨target, e | wanted⟩
    · rfl
    dsimp only [unplacedExpr, unplacedEnd_ok, unplacedEnd_error]
    rw [expr_unplaced]
    rcases expr catalog space scope value with ⟨value, e | given⟩
    · rfl
    dsimp only [unplacedExpr, unplacedEnd_ok, unplacedEnd_error, unplacedChecked]
    rw [offset_unplaced, require_unplaced wanted given value.offset]
    rfl
  next => rfl

theorem condition_unplaced (e : Expr) :
    condition catalog space scope e.unplaced =
      ((condition catalog space scope e).1.unplaced, unplacedEnd (condition catalog space scope e).2) := by
  unfold condition
  rw [expr_unplaced]
  rcases expr catalog space scope e with ⟨e, problem | given⟩
  · rfl
  dsimp only [unplacedExpr, unplacedEnd_ok, unplacedEnd_error]
  rw [offset_unplaced, require_unplaced Ty.boolean given e.offset]

theorem isEmpty_unplacedAll (ss : List Stmt) : (Stmt.unplacedAll ss).isEmpty = ss.isEmpty := by
  cases ss <;> rfl

mutual
theorem stmt_unplaced (space : Space) (scope : ScopeId) (s : Stmt) :
    stmt catalog space scope s.unplaced = unplacedChecked Stmt.unplaced (stmt catalog space scope s) := by
  cases s with
  | expression e offset =>
    rw [Stmt.unplaced, stmt, stmt, isCall_unplaced, expr_unplaced]
    split
    next => rcases expr catalog space scope e with ⟨e, problem | t⟩ <;> rfl
    next => rfl
  | declaration name typeName initializer offset binding =>
    exact declaration_unplaced catalog space scope name typeName initializer offset binding
  | assignment target value offset => exact assignment_unplaced catalog space scope target value offset
  | conditional c thenPart elsePart offset =>
    rw [Stmt.unplaced, stmt, stmt, condition_unplaced, isEmpty_unplacedAll]
    rcases condition catalog space scope c with ⟨c, problem | _⟩
    · rfl
    dsimp only [unplacedEnd_ok, unplacedEnd_error]
    split
    next => rfl
    next =>
      rw [block_unplaced _ _ thenPart]
      rcases block catalog (space.child scope).1 (space.child scope).2 thenPart with
        ⟨space', thenPart, problem | _⟩
      · rfl
      dsimp only [unplacedChecked, unplacedEnd_ok, unplacedEnd_error]
      rw [block_unplaced _ _ elsePart]
      rfl
  | forEach name iterable body offset =>
    rw [Stmt.unplaced, stmt, stmt, expr_unplaced, isEmpty_unplacedAll]
    rcases expr catalog space scope iterable with ⟨iterable, problem | given⟩
    · rfl
    dsimp only [unplacedExpr, unplacedEnd_ok, unplacedEnd_error]
    split
    next => rw [offset_unplaced]; rfl
    next =>
    split
    next => rfl
    next =>
      cases (space.child scope).1.declareVariable? (space.child scope).2 name .integer with
      | none => rfl
      | some made =>
        dsimp only
        rw [block_unplaced _ _ body]
        rfl
  | whileLoop c body offset =>
    rw [Stmt.unplaced, stmt, stmt, condition_unplaced]
    rcases condition catalog space scope c with ⟨c, problem | _⟩
    · rfl
    dsimp only [unplacedEnd_ok, unplacedEnd_error]
    rw [block_unplaced _ _ body]
    rfl
  | ret value offset =>
    rw [Stmt.unplaced, stmt, stmt, expr_unplaced]
    rcases expr catalog space scope value with ⟨value, problem | t⟩ <;> rfl
  | unknown offset => rfl

theorem block_unplaced (space : Space) (scope : ScopeId) (ss : List Stmt) :
    block catalog space scope (Stmt.unplacedAll ss) =
      unplacedChecked Stmt.unplacedAll (block catalog space scope ss) := by
  cases ss with
  | nil => rfl
  | cons s ss =>
    rw [Stmt.unplacedAll, block, block, stmt_unplaced space scope s]
    rcases stmt catalog space scope s with ⟨space', s, problem | _⟩
    · rfl
    dsimp only [unplacedChecked, unplacedEnd_ok, unplacedEnd_error]
    rw [block_unplaced space' scope ss]
    rfl
end

/-! ## Programs -/

theorem field_unplaced (f : Field) :
    field catalog space scope f.unplaced = unplacedChecked Field.unplaced (field catalog space scope f) := by
  obtain ⟨name, typeName, value, offset, binding⟩ := f
  have checked : ∀ wanted, initializer catalog space scope wanted (value.map Expr.unplaced) =
      ((initializer catalog space scope wanted value).1.map Expr.unplaced,
        unplacedEnd (initializer catalog space scope wanted value).2) := by
    intro wanted
    cases value with
    | none => rfl
    | some e =>
      rw [Option.map_some, initializer, initializer, expr_unplaced]
      rcases expr catalog space scope e with ⟨e, problem | given⟩
      · rfl
      dsimp only [unplacedExpr, unplacedEnd_ok, unplacedEnd_error]
      rw [offset_unplaced, require_unplaced wanted given e.offset]
      rfl
  unfold field
  dsimp only [Field.unplaced]
  rw [named_unplaced typeName offset]
  cases Ty.named typeName offset with
  | error problem => rfl
  | ok wanted =>
    dsimp only [unplacedEnd_ok, unplacedEnd_error]
    rw [checked]
    rcases initializer catalog space scope wanted value with ⟨value, problem | _⟩
    · rfl
    dsimp only [unplacedEnd_ok, unplacedEnd_error]
    cases space.declareVariable? scope name wanted with
    | none => rfl
    | some made => cases binding <;> rfl

theorem signature_unplaced (m : Method) : signature m.unplaced = unplacedEnd (signature m) := by
  obtain ⟨name, params, resultTypeName, body, offset, callee⟩ := m
  have types : ∀ params : List Param, params.mapM (fun p => Ty.named p.typeName 0) =
      unplacedEnd (params.mapM fun p => Ty.named p.typeName offset) := by
    intro params
    induction params with
    | nil => rfl
    | cons p params ih =>
      simp only [List.mapM_cons, unplacedEnd_bind, ih, ← named_unplaced p.typeName offset]
      rfl
  unfold signature
  dsimp only [Method.unplaced]
  rw [unplacedEnd_bind, types]
  congr 1
  funext types
  cases resultTypeName with
  | none => rfl
  | some name =>
    dsimp only
    rw [unplacedEnd_bind, named_unplaced name offset]
    rfl

theorem bindParams_unplaced (offset : Nat) (params : List (String × Ty)) :
    bindParams space scope 0 params =
      ((bindParams space scope offset params).1, unplacedEnd (bindParams space scope offset params).2) := by
  induction params generalizing space with
  | nil => rfl
  | cons p params ih =>
    obtain ⟨name, type⟩ := p
    rw [bindParams, bindParams]
    cases space.declareVariable? scope name type with
    | none => rfl
    | some made => exact ih made.1

theorem type?_unplaced (e : Expr) : e.unplaced.type? = e.type? := by
  cases e <;> rfl

theorem requireResults_unplaced (result : Ty) (ss : List Stmt) :
    requireResults result (Stmt.unplacedAll ss) = unplacedEnd (requireResults result ss) := by
  induction ss with
  | nil => rfl
  | cons s ss ih =>
    cases s with
    | ret value offset =>
      rw [Stmt.unplacedAll, Stmt.unplaced, requireResults, requireResults, type?_unplaced, ih]
      cases value.type? with
      | none => rfl
      | some given =>
        dsimp only
        rw [unplacedEnd_bind, require_unplaced result given offset]
    | _ => exact ih

theorem methodBody_unplaced (params : List Ty) (result : Ty) (m : Method) :
    methodBody catalog space scope params result m.unplaced =
      unplacedChecked Method.unplaced (methodBody catalog space scope params result m) := by
  unfold methodBody
  dsimp only [Method.unplaced]
  rw [bindParams_unplaced _ _ m.offset]
  rcases bindParams (space.child scope).1 (space.child scope).2 m.offset
    ((m.params.map Param.name).zip params) with ⟨space', problem | _⟩
  · rfl
  dsimp only [unplacedEnd_ok, unplacedEnd_error]
  rw [block_unplaced]
  rcases block catalog space' (space.child scope).2 m.body with ⟨space'', body, problem | _⟩
  · rfl
  dsimp only [unplacedChecked, unplacedEnd_ok, unplacedEnd_error]
  rw [requireResults_unplaced]
  split <;> rfl

theorem method_unplaced (m : Method) :
    method catalog space scope m.unplaced = unplacedChecked Method.unplaced (method catalog space scope m) := by
  unfold method
  rw [signature_unplaced]
  rcases signature m with problem | ⟨params, result⟩
  · rfl
  dsimp only [unplacedEnd_ok, unplacedEnd_error, Method.unplaced]
  cases space.declareFunction? scope m.name params result with
  | none => rfl
  | some made =>
    obtain ⟨space', f⟩ := made
    obtain ⟨name, ps, resultTypeName, body, offset, callee⟩ := m
    cases callee with
    | some g => rfl
    | none =>
      exact methodBody_unplaced catalog space' scope params result
        { name, params := ps, resultTypeName, body, offset, callee := some f }

/-- What is checked one by one may be checked one by one without places. -/
theorem each_unplaced {τ : Type} {forget : τ → τ} {check : Space → τ → Checked τ}
    (one : ∀ space x, check space (forget x) = unplacedChecked forget (check space x)) (xs : List τ) :
    each check space (xs.map forget) = unplacedChecked (List.map forget) (each check space xs) := by
  induction xs generalizing space with
  | nil => rfl
  | cons x xs ih =>
    rw [List.map_cons, each, each, one]
    rcases check space x with ⟨space', x, problem | _⟩
    · rfl
    dsimp only [unplacedChecked, unplacedEnd_ok, unplacedEnd_error]
    rw [ih]
    rfl

theorem requireMain_unplaced : requireMain space scope = unplacedEnd (requireMain space scope) := by
  unfold requireMain
  cases space.lookupFunction? scope "main" 0 with
  | none => rfl
  | some main => exact require_unplaced _ _ 0

theorem source_unplaced (needsMain : Bool) (s : Source) :
    source catalog needsMain space scope s.unplaced =
      unplacedChecked Source.unplaced (source catalog needsMain space scope s) := by
  unfold source
  dsimp only [Source.unplaced]
  rw [each_unplaced space fun space f => field_unplaced catalog space scope f]
  rcases each (fun space f => field catalog space scope f) space s.fields with ⟨space', fields, problem | _⟩
  · rfl
  dsimp only [unplacedChecked, unplacedEnd_ok, unplacedEnd_error]
  rw [each_unplaced space' fun space m => method_unplaced catalog space scope m]
  rcases each (fun space m => method catalog space scope m) space' s.methods with
    ⟨space'', methods, problem | _⟩
  · rfl
  cases needsMain with
  | false => rfl
  | true => exact congrArg (Checked.mk space'' _) (requireMain_unplaced space'' scope)

end Check

theorem checkSource_unplaced (catalog : Catalog) (needsMain : Bool) (space : Space) (outer : ScopeId)
    (s : Source) : checkSource catalog needsMain space outer s.unplaced =
      Check.unplacedChecked Source.unplaced (checkSource catalog needsMain space outer s) :=
  Check.source_unplaced catalog _ _ needsMain s

end Primer
