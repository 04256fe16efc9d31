import Primer.CommandLine.Program
import Primer.Proofs.Check.Soundness
import Primer.Proofs.Grammar.Solid

/-!
# Checking settles solid records

The records that a check puts into slots are found in the space or the catalog, or are new. A new record is known in
Java by the name that the program declares, and has the type of an expression or one that a program can name.

**The law** (`solid_expr` to `keeps_source`): what is solid before a check is solid after it, also when the check
ends early.
-/

namespace Primer

/-- That a check has left the space solid, and a tree of some sort. -/
structure Checked.Keeps {τ : Type} (P : τ → Prop) (c : Checked τ) : Prop where
  space : c.space.Solid
  tree : P c.tree

theorem Checked.Keeps.map {τ υ : Type} {P : τ → Prop} {Q : υ → Prop} {c : Checked τ} {f : τ → υ} (keeps : c.Keeps P)
    (carries : ∀ x, P x → Q (f x)) : (c.map f).Keeps Q :=
  ⟨keeps.space, carries _ keeps.tree⟩

namespace Check

/-! ## Types -/

theorem solid_literalType {value : Value} {offset : Nat} {t : Ty} (typed : literalType value offset = .ok t) :
    t.Solid := by
  apply Ty.solid_of_mem_builtIns
  cases value with
  | nil | bool | char | str =>
    cases typed
    decide
  | int n =>
    simp only [literalType] at typed
    split at typed
    next =>
      cases typed
      decide
    next => split at typed <;> cases typed
  | dec d =>
    simp only [literalType] at typed
    split at typed
    next => cases typed
    next =>
      cases typed
      decide
  | range | list | object =>
    simp only [literalType] at typed
    split at typed <;> cases typed

theorem solid_of_operates {op : Operator} {left right t : Ty} (operates : Operates op left right t) : t.Solid := by
  apply Ty.solid_of_mem_builtIns
  cases operates with
  | logical | comparison | join => decide
  | arithmetic _ isNumber => rcases isNumber with rfl | rfl <;> decide

theorem solid_named {name : String} {offset : Nat} {t : Ty} (named : Ty.named name offset = .ok t) : t.Solid := by
  unfold Ty.named at named
  split at named
  next found =>
    cases named
    exact Ty.solid_of_mem_builtIns (List.mem_of_find?_eq_some found)
  next => cases named

/-! ## Expressions -/

/-- That a check of an expression has left it solid, with a solid type if it has one. -/
structure Settles (r : Expr × Except CheckError Ty) : Prop where
  tree : r.1.Solid
  type : ∀ t, r.2 = .ok t → t.Solid

theorem Settles.error {e : Expr} {problem : CheckError} (tree : e.Solid) : Settles (e, .error problem) :=
  ⟨tree, nofun⟩

theorem settles_settleType {phrase : SlottedPhrase} {slot : Option Ty} {t : Ty} {tree : Option Ty → Expr}
    (typed : t.Solid) (solid : ∀ type, (tree type).Solid) : Settles (settleType phrase slot t tree) := by
  cases slot with
  | some _ => exact .error (solid _)
  | none => exact ⟨solid _, by rintro _ ⟨⟩; exact typed⟩

theorem settles_settleVariable {binding : Option Variable} {type : Option Ty} {v : Variable}
    {tree : Option Variable → Option Ty → Expr} (found : v.Solid) (before : ∀ v ∈ binding, v.Solid)
    (solid : ∀ binding type, (∀ v ∈ binding, v.Solid) → (tree binding type).Solid) :
    Settles (settleVariable binding type v tree) := by
  cases binding with
  | some _ => exact .error (solid _ _ before)
  | none => exact settles_settleType found.type fun _ => solid _ _ (by rintro _ ⟨⟩; exact found)

theorem settles_settleFunction {callee : Option Function} {type : Option Ty} {f : Function}
    {tree : Option Function → Option Ty → Expr} (found : f.Solid) (before : ∀ f ∈ callee, f.Solid)
    (solid : ∀ callee type, (∀ f ∈ callee, f.Solid) → (tree callee type).Solid) :
    Settles (settleFunction callee type f tree) := by
  cases callee with
  | some _ => exact .error (solid _ _ before)
  | none => exact settles_settleType found.result fun _ => solid _ _ (by rintro _ ⟨⟩; exact found)

variable {catalog : Catalog} {space : Space} {scope : ScopeId}

mutual
theorem solid_expr (members : catalog.Solid) (records : space.Solid) (e : Expr) (solid : e.Solid) :
    Settles (expr catalog space scope e) := by
  cases solid with
  | literal =>
    rw [expr]
    split
    next => exact .error .literal
    next typed => exact settles_settleType (solid_literalType typed) fun _ => .literal
  | @group inner offset type inside =>
    rw [expr]
    split
    next =>
      have checked := solid_expr members records inner inside
      split
      next same =>
        rw [same] at checked
        exact .error (.group checked.tree)
      next t same =>
        rw [same] at checked
        exact settles_settleType (checked.type t rfl) fun _ => .group checked.tree
    next => exact .error (.group inside)
  | @binary op left right offset type sign first second =>
    have checkedLeft := solid_expr members records left first
    have checkedRight := solid_expr members records right second
    rw [expr]
    split
    next same =>
      rw [same] at checkedLeft
      exact .error (.binary sign checkedLeft.tree second)
    next sameLeft =>
      rw [sameLeft] at checkedLeft
      split
      next same =>
        rw [same] at checkedRight
        exact .error (.binary sign checkedLeft.tree checkedRight.tree)
      next same =>
        rw [same] at checkedRight
        split
        next => exact .error (.binary sign checkedLeft.tree checkedRight.tree)
        next typed =>
          exact settles_settleType (solid_of_operates (operates_of_operationType typed))
            fun _ => .binary sign checkedLeft.tree checkedRight.tree
  | ref settled =>
    rw [expr]
    split
    next => exact .error (.ref settled)
    next found => exact settles_settleVariable (records.lookupVariable? found) settled fun _ _ => .ref
  | @field receiver name offset binding type object settled =>
    have checked := solid_expr members records receiver object
    rw [expr]
    split
    next same =>
      rw [same] at checked
      exact .error (.field checked.tree settled)
    next same =>
      rw [same] at checked
      split
      next => exact .error (.field checked.tree settled)
      next found =>
        exact settles_settleVariable (members.field? found) settled fun _ _ => .field checked.tree
  | @call name args offset callee type given settled =>
    have checked := solid_exprs members records args given
    rw [expr]
    split
    next same =>
      rw [same] at checked
      exact .error (.call checked settled)
    next same =>
      rw [same] at checked
      split
      next => exact .error (.call checked settled)
      next found =>
        split
        next => exact .error (.call checked settled)
        next => exact settles_settleFunction (records.lookupFunction? found) settled fun _ _ => .call checked
  | @send receiver name args offset callee type object given settled =>
    have checkedArgs := solid_exprs members records args given
    have checked := solid_expr members records receiver object
    rw [expr]
    split
    next same =>
      rw [same] at checkedArgs
      exact .error (.send object checkedArgs settled)
    next sameArgs =>
      rw [sameArgs] at checkedArgs
      split
      next same =>
        rw [same] at checked
        exact .error (.send checked.tree checkedArgs settled)
      next same =>
        rw [same] at checked
        split
        next => exact .error (.send checked.tree checkedArgs settled)
        next found =>
          split
          next => exact .error (.send checked.tree checkedArgs settled)
          next =>
            exact settles_settleFunction (members.method? found) settled fun _ _ => .send checked.tree checkedArgs
  | unknown => exact .error .unknown

theorem solid_exprs (members : catalog.Solid) (records : space.Solid) (es : List Expr) (solid : ∀ e ∈ es, e.Solid) :
    ∀ e ∈ (exprs catalog space scope es).1, e.Solid := by
  cases es with
  | nil => exact solid
  | cons e es =>
    obtain ⟨first, others⟩ := List.forall_mem_cons.mp solid
    have checked := solid_expr members records e first
    have checkedOthers := solid_exprs members records es others
    rw [exprs]
    split
    next same =>
      rw [same] at checked
      exact List.forall_mem_cons.mpr ⟨checked.tree, others⟩
    next sameFirst =>
      rw [sameFirst] at checked
      split
      all_goals
        next same =>
          rw [same] at checkedOthers
          exact List.forall_mem_cons.mpr ⟨checked.tree, checkedOthers⟩
end

/-! ## Statements -/

theorem solid_condition (members : catalog.Solid) (records : space.Solid) {e : Expr} (solid : e.Solid) :
    (condition catalog space scope e).1.Solid := by
  have checked := @solid_expr catalog space scope members records e solid
  unfold condition
  split
  all_goals
    next same =>
      rw [same] at checked
      exact checked.tree

theorem solid_declaredType {typeName : Option String} {value : Option (Ty × Nat)} {offset : Nat} {t : Ty}
    (given : ∀ v ∈ value, v.1.Solid) (declared : declaredType typeName value offset = some (.ok t)) : t.Solid := by
  cases typeName with
  | none =>
    cases value with
    | none => cases declared
    | some v =>
      cases declared
      exact given v rfl
  | some name =>
    cases value with
    | none => exact solid_named (Option.some.inj declared)
    | some v =>
      obtain ⟨wanted, -, passed⟩ := Except.bind_eq_ok_iff.mp (Option.some.inj declared)
      obtain ⟨⟨⟩, -, same⟩ := Except.bind_eq_ok_iff.mp passed
      cases same
      exact given v rfl

theorem keeps_bindDeclaration (records : space.Solid) {name : String} {type : Ty} {offset : Nat}
    {binding : Option Variable} {tree : Option Variable → Stmt} (named : Java.isName name.toList) (typed : type.Solid)
    (before : ∀ v ∈ binding, v.Solid) (solid : ∀ binding, (∀ v ∈ binding, v.Solid) → (tree binding).Solid) :
    (bindDeclaration space scope name type offset binding tree).Keeps Stmt.Solid := by
  unfold bindDeclaration
  split
  next => exact ⟨records, solid _ before⟩
  next declared =>
    obtain ⟨records', new⟩ := records.declareVariable? named typed declared
    cases binding with
    | some _ => exact ⟨records', solid _ before⟩
    | none => exact ⟨records', solid _ (by rintro _ ⟨⟩; exact new)⟩

theorem keeps_declaration (members : catalog.Solid) (records : space.Solid) {name : String} {typeName : Option String}
    {initializer : Option Expr} {offset : Nat} {binding : Option Variable} (named : Java.isName name.toList)
    (inside : ∀ e ∈ initializer, e.Solid) (before : ∀ v ∈ binding, v.Solid) :
    (declaration catalog space scope name typeName initializer offset binding).Keeps Stmt.Solid := by
  unfold declaration
  cases initializer with
  | none =>
    dsimp only
    split
    next => exact ⟨records, .declaration named inside before⟩
    next => exact ⟨records, .declaration named inside before⟩
    next declared =>
      exact keeps_bindDeclaration records named (solid_declaredType (by rintro _ ⟨⟩) declared) before
        fun _ => .declaration named inside
  | some value =>
    have checked := @solid_expr catalog space scope members records value (inside value rfl)
    have one : ∀ {e : Expr}, e.Solid → ∀ e' ∈ some e, e'.Solid := by
      rintro e solid _ ⟨⟩
      exact solid
    dsimp only
    split
    next same =>
      rw [same] at checked
      exact ⟨records, .declaration named (one checked.tree) before⟩
    next given same =>
      rw [same] at checked
      split
      next => exact ⟨records, .declaration named (one checked.tree) before⟩
      next => exact ⟨records, .declaration named (one checked.tree) before⟩
      next declared =>
        have typed := solid_declaredType (by rintro _ ⟨⟩; exact checked.type given rfl) declared
        exact keeps_bindDeclaration records named typed before fun _ => .declaration named (one checked.tree)

theorem keeps_assignment (members : catalog.Solid) (records : space.Solid) {target value : Expr} {offset : Nat}
    (first : target.Solid) (second : value.Solid) :
    (assignment catalog space scope target value offset).Keeps Stmt.Solid := by
  have left := @solid_expr catalog space scope members records target first
  have right := @solid_expr catalog space scope members records value second
  unfold assignment
  split
  next =>
    split
    next same =>
      rw [same] at left
      exact ⟨records, .assignment left.tree second⟩
    next sameTarget =>
      rw [sameTarget] at left
      split
      all_goals
        next same =>
          rw [same] at right
          exact ⟨records, .assignment left.tree right.tree⟩
  next => exact ⟨records, .assignment first second⟩

mutual
theorem keeps_stmt (members : catalog.Solid) (space : Space) (records : space.Solid) (scope : ScopeId) (s : Stmt)
    (solid : s.Solid) : (stmt catalog space scope s).Keeps Stmt.Solid := by
  cases solid with
  | @expression e offset inside =>
    have checked := @solid_expr catalog space scope members records e inside
    rw [stmt]
    split
    next =>
      split
      all_goals
        next same =>
          rw [same] at checked
          exact ⟨records, .expression checked.tree⟩
    next => exact ⟨records, .expression inside⟩
  | declaration named inside settled =>
    rw [stmt]
    exact keeps_declaration members records named inside settled
  | assignment first second =>
    rw [stmt]
    exact keeps_assignment members records first second
  | @conditional c thenPart elsePart offset tested first second =>
    have checked := @solid_condition catalog space scope members records c tested
    rw [stmt]
    split
    next same =>
      rw [same] at checked
      exact ⟨records, .conditional checked first second⟩
    next same =>
      rw [same] at checked
      split
      next => exact ⟨records, .conditional checked first second⟩
      next =>
        have inFirst := keeps_block members _ (records.child scope) (space.child scope).2 thenPart first
        dsimp only
        split
        next same =>
          rw [same] at inFirst
          exact ⟨inFirst.space, .conditional checked inFirst.tree second⟩
        next between _ same =>
          rw [same] at inFirst
          have inSecond := keeps_block members _ (inFirst.space.child scope) (between.child scope).2 elsePart second
          exact inSecond.map fun _ => .conditional checked inFirst.tree
  | @forEach name iterable body offset named iterated inside =>
    have checked := @solid_expr catalog space scope members records iterable iterated
    rw [stmt]
    split
    next same =>
      rw [same] at checked
      exact ⟨records, .forEach named checked.tree inside⟩
    next same =>
      rw [same] at checked
      split
      next => exact ⟨records, .forEach named checked.tree inside⟩
      next =>
        split
        next => exact ⟨records, .forEach named checked.tree inside⟩
        next =>
          dsimp only
          split
          next => exact ⟨records.child scope, .forEach named checked.tree inside⟩
          next declared =>
            have counts : Ty.integer.Solid := Ty.solid_of_mem_builtIns (by decide)
            obtain ⟨records', -⟩ := (records.child scope).declareVariable? named counts declared
            exact (keeps_block members _ records' _ body inside).map fun _ => .forEach named checked.tree
  | @whileLoop c body offset tested inside =>
    have checked := @solid_condition catalog space scope members records c tested
    rw [stmt]
    split
    next same =>
      rw [same] at checked
      exact ⟨records, .whileLoop checked inside⟩
    next same =>
      rw [same] at checked
      exact (keeps_block members _ (records.child scope) _ body inside).map fun _ => .whileLoop checked
  | @ret value offset inside =>
    have checked := @solid_expr catalog space scope members records value inside
    rw [stmt]
    split
    all_goals
      next same =>
        rw [same] at checked
        exact ⟨records, .ret checked.tree⟩
  | unknown =>
    rw [stmt]
    exact ⟨records, .unknown⟩

theorem keeps_block (members : catalog.Solid) (space : Space) (records : space.Solid) (scope : ScopeId)
    (ss : List Stmt) (solid : ∀ s ∈ ss, s.Solid) :
    (block catalog space scope ss).Keeps fun ss => ∀ s ∈ ss, s.Solid := by
  cases ss with
  | nil =>
    rw [block]
    exact ⟨records, solid⟩
  | cons s ss =>
    obtain ⟨first, others⟩ := List.forall_mem_cons.mp solid
    have checked := keeps_stmt members space records scope s first
    rw [block]
    split
    next same =>
      rw [same] at checked
      exact ⟨checked.space, List.forall_mem_cons.mpr ⟨checked.tree, others⟩⟩
    next same =>
      rw [same] at checked
      refine (keeps_block members _ checked.space scope ss others).map fun ss later => ?_
      exact List.forall_mem_cons.mpr ⟨checked.tree, later⟩
end

/-! ## Programs -/

theorem solid_initializer (members : catalog.Solid) (records : space.Solid) (wanted : Ty) {value : Option Expr}
    (solid : ∀ e ∈ value, e.Solid) : ∀ e ∈ (initializer catalog space scope wanted value).1, e.Solid := by
  cases value with
  | none => exact solid
  | some e =>
    have checked := @solid_expr catalog space scope members records e (solid e rfl)
    rw [initializer]
    split
    all_goals
      next same =>
        rw [same] at checked
        rintro _ ⟨⟩
        exact checked.tree

theorem keeps_field (members : catalog.Solid) (space : Space) (records : space.Solid) (f : Field) (solid : f.Solid) :
    (field catalog space scope f).Keeps Field.Solid := by
  unfold field
  split
  next => exact ⟨records, solid⟩
  next wanted isNamed =>
    have inside := @solid_initializer catalog space scope members records wanted f.initializer solid.initializer
    split
    next same =>
      rw [same] at inside
      exact ⟨records, solid.named, inside, solid.settled⟩
    next same =>
      rw [same] at inside
      dsimp only
      split
      next => exact ⟨records, solid.named, inside, solid.settled⟩
      next declared =>
        obtain ⟨records', new⟩ := records.declareVariable? solid.named (solid_named isNamed) declared
        split
        next => exact ⟨records', solid.named, inside, solid.settled⟩
        next => exact ⟨records', solid.named, inside, by rintro _ ⟨⟩; exact new⟩

theorem solid_signature {m : Method} {params : List Ty} {result : Ty} (passed : signature m = .ok (params, result)) :
    (∀ t ∈ params, t.Solid) ∧ result.Solid := by
  obtain ⟨types, named, passed⟩ := Except.bind_eq_ok_iff.mp passed
  have each : ∀ t ∈ types, t.Solid := by
    intro t mem
    obtain ⟨p, -, isNamed⟩ := Except.exists_of_mem_of_mapM_eq_ok named t mem
    exact solid_named isNamed
  dsimp only at passed
  split at passed
  next =>
    cases passed
    exact ⟨each, Ty.solid_of_mem_builtIns (by decide)⟩
  next =>
    obtain ⟨t, isNamed, same⟩ := Except.bind_eq_ok_iff.mp passed
    cases same
    exact ⟨each, solid_named isNamed⟩

theorem solid_bindParams {space : Space} (records : space.Solid) (scope : ScopeId) (offset : Nat)
    {params : List (String × Ty)} (solid : ∀ p ∈ params, Java.isName p.1.toList ∧ p.2.Solid) :
    (bindParams space scope offset params).1.Solid := by
  induction params generalizing space with
  | nil => exact records
  | cons p params ih =>
    obtain ⟨⟨named, typed⟩, others⟩ := List.forall_mem_cons.mp solid
    rw [bindParams]
    split
    next => exact records
    next declared => exact ih (records.declareVariable? named typed declared).1 others

theorem keeps_methodBody (members : catalog.Solid) (records : space.Solid) {params : List Ty} {result : Ty} {m : Method}
    (accepts : ∀ t ∈ params, t.Solid) (solid : m.Solid) :
    (methodBody catalog space scope params result m).Keeps Method.Solid := by
  have bound : ∀ p ∈ (m.params.map Param.name).zip params, Java.isName p.1.toList ∧ p.2.Solid := by
    intro p mem
    obtain ⟨isParam, isType⟩ := List.of_mem_zip mem
    obtain ⟨param, mem, same⟩ := List.mem_map.mp isParam
    exact ⟨same ▸ solid.params param mem, accepts _ isType⟩
  unfold methodBody
  have inner := solid_bindParams (records.child scope) (space.child scope).2 m.offset bound
  dsimp only
  split
  next same =>
    rw [same] at inner
    exact ⟨inner, solid⟩
  next same =>
    rw [same] at inner
    have inside := keeps_block members _ inner (space.child scope).2 m.body solid.body
    split
    all_goals
      next same =>
        rw [same] at inside
        exact ⟨inside.space, solid.named, solid.params, inside.tree, solid.settled⟩

theorem keeps_method (members : catalog.Solid) (space : Space) (records : space.Solid) (m : Method) (solid : m.Solid) :
    (method catalog space scope m).Keeps Method.Solid := by
  unfold method
  split
  next => exact ⟨records, solid⟩
  next passed =>
    obtain ⟨accepts, gives⟩ := solid_signature passed
    split
    next => exact ⟨records, solid⟩
    next declared =>
      obtain ⟨records', new⟩ := records.declareFunction? solid.named accepts gives declared
      split
      next => exact ⟨records', solid⟩
      next =>
        apply keeps_methodBody members records' accepts
        exact ⟨solid.named, solid.params, solid.body, by rintro _ ⟨⟩; exact new⟩

/-- What a check keeps of each of a list it keeps of the list. -/
theorem keeps_each {τ : Type} {P : τ → Prop} {check : Space → τ → Checked τ}
    (keeps : ∀ space, space.Solid → ∀ x, P x → (check space x).Keeps P) (space : Space) (records : space.Solid)
    (xs : List τ) (solid : ∀ x ∈ xs, P x) : (each check space xs).Keeps fun xs => ∀ x ∈ xs, P x := by
  induction xs generalizing space with
  | nil => exact ⟨records, solid⟩
  | cons x xs ih =>
    obtain ⟨first, others⟩ := List.forall_mem_cons.mp solid
    have checked := keeps space records x first
    rw [each]
    split
    next same =>
      rw [same] at checked
      exact ⟨checked.space, List.forall_mem_cons.mpr ⟨checked.tree, others⟩⟩
    next same =>
      rw [same] at checked
      refine (ih _ checked.space others).map fun xs later => ?_
      exact List.forall_mem_cons.mpr ⟨checked.tree, later⟩

theorem keeps_source (members : catalog.Solid) (records : space.Solid) {needsMain : Bool} {s : Source}
    (solid : s.Solid) : (source catalog needsMain space scope s).Keeps Source.Solid := by
  have fields := keeps_each (@keeps_field catalog scope members) space records s.fields solid.fields
  unfold source
  split
  next same =>
    rw [same] at fields
    exact ⟨fields.space, fields.tree, solid.methods⟩
  next between _ same =>
    rw [same] at fields
    have methods := keeps_each (@keeps_method catalog scope members) between fields.space s.methods solid.methods
    split
    all_goals
      next same =>
        rw [same] at methods
        exact ⟨methods.space, fields.tree, methods.tree⟩

/-- A solid program stays solid when it is checked in a space of solid records. -/
theorem solid_checkSource (members : catalog.Solid) (records : space.Solid) (needsMain : Bool) (outer : ScopeId)
    {s : Source} (solid : s.Solid) : (checkSource catalog needsMain space outer s).tree.Solid :=
  (keeps_source members (records.child outer) solid).tree

/-! ## Programs that were read -/

open CommandLine (rootWorld)

/-- The scope around programs binds one function, which is printed by a path of names. -/
theorem solid_rootWorld : rootWorld.1.space.Solid := by
  have frames : rootWorld.1.space.frames =
      #[{ parent := none, funs := [⟨0, "print", [.any], .nil, "System.out.println"⟩] }] := rfl
  intro i f found
  rw [Space.frame?, frames] at found
  cases i with
  | zero =>
    cases found
    have builtIn : ∀ t ∈ [Ty.any], t.Solid := by
      intro t mem
      cases List.mem_singleton.mp mem
      exact Ty.solid_of_mem_builtIns (by decide)
    have print : Function.Solid ⟨0, "print", [.any], .nil, "System.out.println"⟩ :=
      ⟨by decide, builtIn, Ty.solid_of_mem_builtIns (by decide)⟩
    exact ⟨List.forall_mem_nil _, List.forall_mem_singleton.mpr print⟩
  | succ i => simp at found

/-- A program that was read from a text is solid after it was checked in the scope around programs. -/
theorem solid_of_parseText {text : List Char} {s : Source} (read : parseText text = .ok s) (needsMain : Bool) :
    (checkSource {} needsMain rootWorld.1.space rootWorld.2 s).tree.Solid :=
  solid_checkSource ⟨List.forall_mem_nil _, List.forall_mem_nil _⟩ solid_rootWorld needsMain rootWorld.2
    (Primer.solid_of_parseText read)

end Check

end Primer
