import Primer.Proofs.Check.Soundness
import Primer.Proofs.Tree.Variables

/-!
# The variables that a passed check has made

**The law** (`checkSource_bound`): in a program that passes the check, the names hold the variables that they
mean where they stand, and the variables that the check has made are those of the declarations, numbered in
the order of the text from the first number that was free before. So no two declarations share a variable, and
none has one of those that were there before.

The laws are proved along the recursion of the check, beside those of `Primer.Proofs.Check.Soundness`, which
say what the contexts on the way describe.
-/

namespace Primer

namespace Space

/-- That some frame binds a variable. -/
def Binds (s : Space) (v : Variable) : Prop :=
  ∃ i f, s.frame? i = some f ∧ v ∈ f.vars

/-- What becomes of a space when so many records are made, of which these variables are bound. -/
structure Makes (s s' : Space) (count : Nat) (vs : List Variable) : Prop where
  next : s'.nextNumber = s.nextNumber + count
  binds : ∀ v, s'.Binds v ↔ s.Binds v ∨ v ∈ vs

namespace Makes

variable {s s' s'' : Space} {scope : ScopeId}

theorem refl (s : Space) : s.Makes s 0 [] where
  next := rfl
  binds v := by simp

theorem trans {count count' : Nat} {vs vs' : List Variable} (first : s.Makes s' count vs)
    (second : s'.Makes s'' count' vs') : s.Makes s'' (count + count') (vs ++ vs') where
  next := by rw [second.next, first.next, Nat.add_assoc]
  binds v := by rw [second.binds, first.binds, List.mem_append, or_assoc]

/-- A new scope binds nothing. -/
theorem child (s : Space) (scope : ScopeId) : s.Makes (s.child scope).1 0 [] where
  next := s.nextNumber_child scope
  binds v := by
    have grows : Grows (fun _ => False) s (s.child scope).1 := .of_child (.refl _ _)
    constructor
    · rintro ⟨i, f, found, mem⟩
      rcases frame?_child_cases found with old | ⟨-, none, -⟩
      · exact .inl ⟨i, f, old, mem⟩
      · rw [none] at mem
        cases mem
    · rintro (⟨i, f, found, mem⟩ | mem)
      · exact ⟨i, f, grows.frame?_eq id found, mem⟩
      · cases mem

theorem declareVariable {f : Frame} {name : String} {type : Ty} {v : Variable} (found : s.frame? scope = some f)
    (declared : s.declareVariable? scope name type = some (s', v)) :
    v = { number := s.nextNumber, name, type, javaName := name } ∧ s.Makes s' 1 [v] := by
  simp only [declareVariable?, defineVariable?] at declared
  split at declared
  next => cases declared
  next =>
    cases declared
    have frames : ∀ i, ((s.newVariable name type).1.addVariable scope (s.newVariable name type).2).frame? i =
        if scope = i then (s.frame? i).map fun f => { f with vars := (s.newVariable name type).2 :: f.vars }
        else s.frame? i := frame?_addVariable _ scope _
    refine ⟨rfl, rfl, fun u => ⟨?_, ?_⟩⟩
    · rintro ⟨i, f', found', mem⟩
      rw [frames] at found'
      split at found'
      next same =>
        obtain ⟨f'', isFrame, rfl⟩ := Option.map_eq_some_iff.mp found'
        rcases List.mem_cons.mp mem with rfl | old
        · exact .inr (.head _)
        · exact .inl ⟨i, f'', isFrame, old⟩
      next => exact .inl ⟨i, f', found', mem⟩
    · rintro (⟨i, f', found', mem⟩ | mem)
      · by_cases same : scope = i
        · have added := (frames i).trans (if_pos same)
          rw [found', Option.map_some] at added
          exact ⟨i, _, added, List.mem_cons_of_mem _ mem⟩
        · exact ⟨i, f', ((frames i).trans (if_neg same)).trans found', mem⟩
      · cases List.mem_singleton.mp mem
        have added := (frames scope).trans (if_pos rfl)
        rw [found, Option.map_some] at added
        exact ⟨scope, _, added, List.mem_cons_self⟩

theorem declareFunction {frame : Frame} {f : Function} (found : s.frame? scope = some frame)
    (declares : s.DeclaresFunction scope frame f s') : s.Makes s' 1 [] where
  next := declares.next
  binds v := by
    constructor
    · rintro ⟨i, frame', found', mem⟩
      by_cases same : i = scope
      · rw [same, declares.added] at found'
        cases found'
        exact .inl ⟨scope, frame, found, mem⟩
      · rw [declares.others i same] at found'
        exact .inl ⟨i, frame', found', mem⟩
    · rintro (⟨i, frame', found', mem⟩ | mem)
      · by_cases same : i = scope
        · rw [same, found] at found'
          cases found'
          exact ⟨scope, _, declares.added, mem⟩
        · exact ⟨i, frame', (declares.others i same).trans found', mem⟩
      · cases mem

end Makes

end Space

namespace Context

mutual
theorem Types.bound {c : Context} {e : Expr} {t : Ty} : c.Types e t → e.BoundIn c.outerVariable? c.frames
  | .literal _ => trivial
  | .group inside => inside.bound
  | .binary first second _ _ => ⟨first.bound, second.bound⟩
  | .ref found => ⟨_, rfl, found⟩
  | .field object _ => object.bound
  | .call given _ _ => given.bound
  | .send given object _ => ⟨given.bound, object.bound⟩

theorem TypesAll.bound {c : Context} {es : List Expr} {ts : List Ty} :
    c.TypesAll es ts → Expr.BoundAll (Variable.meant c.outerVariable? c.frames) es
  | .nil => trivial
  | .cons first others => ⟨first.bound, others.bound⟩
end

/-- What a statement adds to its scope is in its slot. -/
theorem Admits.eq_bindings {c : Context} {s : Stmt} {vs : List Variable} (admits : c.Admits s vs) :
    vs = s.bindings := by
  cases admits <;> rfl

end Context

namespace Check

/-! ## Statements -/

theorem bindDeclaration_bound {space space' : Space} {scope : ScopeId} {frame : Frame} {name : String} {type : Ty}
    {offset : Nat} {binding : Option Variable} {tree : Option Variable → Stmt} {s' : Stmt}
    (found : space.frame? scope = some frame)
    (passed : bindDeclaration space scope name type offset binding tree = ⟨space', s', .ok ()⟩) :
    ∃ v : Variable, s' = tree (some v) ∧ v.name = name ∧ v.number = space.nextNumber ∧ space.Makes space' 1 [v] := by
  unfold bindDeclaration at passed
  split at passed
  next => cases passed
  next space₁ v declared =>
    obtain ⟨rfl, makes⟩ := Space.Makes.declareVariable found declared
    cases binding with
    | some _ => cases passed
    | none =>
      cases passed
      exact ⟨_, rfl, rfl, rfl, makes⟩

theorem declaration_bound {c : Context} {space space' : Space} {g scope : ScopeId} {name : String}
    {typeName : Option String} {initializer : Option Expr} {offset : Nat} {binding : Option Variable} {s' : Stmt}
    (describes : Describes c space g scope) (loose : ¬ c.strict)
    (passed : declaration c.catalog space scope name typeName initializer offset binding = ⟨space', s', .ok ()⟩) :
    s'.Bound c.outerVariable? space.nextNumber c.frames ∧
      space.Makes space' s'.count (s'.declared space.nextNumber) := by
  obtain ⟨vs, admits, -⟩ := declaration_sound describes passed fun strict => absurd strict loose
  obtain ⟨frame, found⟩ := describes.inside.exists_frame
  have opened : ∃ (initializer' : Option Expr) (v : Variable),
      s' = .declaration name typeName initializer' offset (some v) ∧ v.name = name ∧ v.number = space.nextNumber ∧
        space.Makes space' 1 [v] := by
    unfold declaration at passed
    cases initializer with
    | none =>
      dsimp only at passed
      split at passed
      next => cases passed
      next => cases passed
      next => exact ⟨none, bindDeclaration_bound found passed⟩
    | some value =>
      dsimp only at passed
      split at passed
      next => cases passed
      next value' given _ =>
        split at passed
        next => cases passed
        next => cases passed
        next => exact ⟨some value', bindDeclaration_bound found passed⟩
  obtain ⟨initializer', v, rfl, named, numbered, makes⟩ := opened
  cases admits with
  | declaration _ typed => exact ⟨⟨fun e same => (typed e same).bound, v, rfl, named, numbered⟩, makes⟩

theorem assignment_bound {c : Context} {space space' : Space} {scope : ScopeId} {target value : Expr} {offset : Nat}
    {s' : Stmt} (resolves : Resolves c space scope) (loose : ¬ c.strict)
    (passed : assignment c.catalog space scope target value offset = ⟨space', s', .ok ()⟩) :
    s'.Bound c.outerVariable? space.nextNumber c.frames ∧
      space.Makes space' s'.count (s'.declared space.nextNumber) := by
  unfold assignment at passed
  split at passed
  next =>
    split at passed
    next => cases passed
    next target' wanted checkedTarget =>
      split at passed
      next => cases passed
      next value' given checkedValue =>
        simp only [Checked.mk.injEq] at passed
        obtain ⟨rfl, rfl, -⟩ := passed
        have left := expr_sound resolves target checkedTarget fun strict => absurd strict loose
        have right := expr_sound resolves value checkedValue fun strict => absurd strict loose
        exact ⟨⟨left.bound, right.bound⟩, .refl _⟩
  next => cases passed

mutual
theorem stmt_bound {c : Context} {g scope : ScopeId} {space : Space} (describes : Describes c space g scope)
    (loose : ¬ c.strict) :
    (s : Stmt) → {space' : Space} → {s' : Stmt} → stmt c.catalog space scope s = ⟨space', s', .ok ()⟩ →
      s'.Bound c.outerVariable? space.nextNumber c.frames ∧
        space.Makes space' s'.count (s'.declared space.nextNumber)
  | .expression e offset, space', s', passed => by
    rw [stmt] at passed
    split at passed
    next =>
      split at passed
      next => cases passed
      next e' t checked =>
        cases passed
        exact ⟨(expr_sound describes.resolves e checked fun strict => absurd strict loose).bound, .refl _⟩
    next => cases passed
  | .declaration name typeName initializer offset binding, space', s', passed => by
    rw [stmt] at passed
    exact declaration_bound describes loose passed
  | .assignment target value offset, space', s', passed => by
    rw [stmt] at passed
    exact assignment_bound describes.resolves loose passed
  | .conditional condition thenPart elsePart offset, space', s', passed => by
    rw [stmt] at passed
    split at passed
    next => cases passed
    next condition' checked =>
      split at passed
      next => cases passed
      next =>
        dsimp only at passed
        split at passed
        next => cases passed
        next space₁ thenPart' first =>
          cases second : block c.catalog (space₁.child scope).1 (space₁.child scope).2 elsePart with
          | mk space₂ elsePart' result =>
            rw [second] at passed
            cases passed
            rw [Space.child_snd] at first second
            have tested := condition_sound describes.resolves checked fun strict => absurd strict loose
            obtain ⟨-, grows⟩ := block_sound describes.child thenPart first fun strict => absurd strict loose
            have between := describes.of_grows (.of_child grows) fun _ => False.elim
            obtain ⟨boundThen, makesThen⟩ := block_bound describes.child loose thenPart first
            obtain ⟨boundElse, makesElse⟩ := block_bound between.child loose elsePart second
            rw [Space.nextNumber_child] at boundThen makesThen boundElse makesElse
            have makes₁ := (Space.Makes.child space scope).trans makesThen
            have makes₂ := (Space.Makes.child space₁ scope).trans makesElse
            rw [Nat.zero_add, List.nil_append] at makes₁ makes₂
            rw [makes₁.next] at boundElse makes₂
            exact ⟨⟨tested.bound, boundThen, boundElse⟩, makes₁.trans makes₂⟩
  | .forEach name iterable body offset, space', s', passed => by
    rw [stmt] at passed
    split at passed
    next => cases passed
    next iterable' given checked =>
      split at passed
      next => cases passed
      next =>
        split at passed
        next => cases passed
        next =>
          dsimp only at passed
          split at passed
          next => cases passed
          next space₁ v declared =>
            cases inner : block c.catalog space₁ (space.child scope).2 body with
            | mk space₂ body' result =>
              rw [inner] at passed
              cases passed
              rw [Space.child_snd] at declared inner
              have iterates := expr_sound describes.resolves iterable checked fun strict => absurd strict loose
              obtain ⟨-, -, -, described, -⟩ := describes.child.declareVariable declared
              obtain ⟨frame, found⟩ := describes.child.inside.exists_frame
              obtain ⟨rfl, makesLoop⟩ := Space.Makes.declareVariable found declared
              obtain ⟨bound, makesBody⟩ := block_bound described loose body inner
              have makes₁ := (Space.Makes.child space scope).trans makesLoop
              rw [Nat.zero_add, List.nil_append, Space.nextNumber_child] at makes₁
              rw [Space.nextNumber_child, makes₁.next] at bound
              rw [makes₁.next] at makesBody
              exact ⟨⟨iterates.bound, bound⟩, makes₁.trans makesBody⟩
  | .whileLoop condition body offset, space', s', passed => by
    rw [stmt] at passed
    split at passed
    next => cases passed
    next condition' checked =>
      dsimp only at passed
      cases inner : block c.catalog (space.child scope).1 (space.child scope).2 body with
      | mk space₁ body' result =>
        rw [inner] at passed
        cases passed
        rw [Space.child_snd] at inner
        have tested := condition_sound describes.resolves checked fun strict => absurd strict loose
        obtain ⟨bound, makesBody⟩ := block_bound describes.child loose body inner
        rw [Space.nextNumber_child] at bound makesBody
        have makes := (Space.Makes.child space scope).trans makesBody
        rw [Nat.zero_add, List.nil_append] at makes
        exact ⟨⟨tested.bound, bound⟩, makes⟩
  | .ret value offset, space', s', passed => by
    rw [stmt] at passed
    split at passed
    next => cases passed
    next value' t checked =>
      cases passed
      exact ⟨(expr_sound describes.resolves value checked fun strict => absurd strict loose).bound, .refl _⟩
  | .unknown offset, space', s', passed => by
    rw [stmt] at passed
    cases passed

theorem block_bound {c : Context} {g scope : ScopeId} {space : Space} (describes : Describes c space g scope)
    (loose : ¬ c.strict) :
    (ss : List Stmt) → {space' : Space} → {ss' : List Stmt} →
      block c.catalog space scope ss = ⟨space', ss', .ok ()⟩ →
      Stmt.BoundAll c.outerVariable? space.nextNumber c.frames ss' ∧
        space.Makes space' (Stmt.countAll ss') (Stmt.declaredAll space.nextNumber ss')
  | [], space', ss', passed => by
    rw [block] at passed
    cases passed
    exact ⟨trivial, .refl _⟩
  | s :: ss, space', ss', passed => by
    rw [block] at passed
    split at passed
    next => cases passed
    next between s' first =>
      cases others : block c.catalog between scope ss with
      | mk last rest result =>
        rw [others] at passed
        cases passed
        obtain ⟨vs, admits, described, -⟩ := stmt_sound describes s first fun strict => absurd strict loose
        obtain rfl := admits.eq_bindings
        obtain ⟨bound, makes⟩ := stmt_bound describes loose s first
        obtain ⟨boundRest, makesRest⟩ := block_bound described loose ss others
        rw [makes.next] at boundRest makesRest
        exact ⟨⟨bound, boundRest⟩, makes.trans makesRest⟩
end

/-! ## Fields and methods -/

theorem field_bound {c : Context} {space space' : Space} {g : ScopeId} {frame : Frame} {f f' : Field}
    (found : space.frame? g = some frame) (passed : field c.catalog space g f = ⟨space', f', .ok ()⟩) :
    (∀ v : Variable, f'.binding = some v → v.number = space.nextNumber) ∧
      space.Makes space' 1 f'.binding.toList := by
  unfold field at passed
  split at passed
  next => cases passed
  next =>
    split at passed
    next => cases passed
    next =>
      dsimp only at passed
      split at passed
      next => cases passed
      next space₁ v declared =>
        obtain ⟨rfl, makes⟩ := Space.Makes.declareVariable found declared
        split at passed
        next => cases passed
        next =>
          cases passed
          refine ⟨fun v settled => ?_, makes⟩
          cases settled
          rfl

theorem fields_bound {c : Context} {g : ScopeId} {space space' : Space} {vs : List Variable} {fs fs' : List Field}
    (describes : Describes { c with frames := [vs] } space g g) (loose : ¬ c.strict)
    (passed : each (fun space f => field c.catalog space g f) space fs = ⟨space', fs', .ok ()⟩) :
    ∃ vs', Field.BoundAll c.outerVariable? space.nextNumber vs fs' vs' ∧
      Describes { c with frames := [vs'] } space' g g ∧
        space.Makes space' fs'.length (fs'.flatMap fun f => f.binding.toList) := by
  induction fs generalizing space vs fs' with
  | nil =>
    cases passed
    exact ⟨vs, .nil, describes, .refl _⟩
  | cons f fs ih =>
    rw [each] at passed
    split at passed
    next => cases passed
    next between f' first =>
      cases others : each (fun space f => field c.catalog space g f) between fs with
      | mk last rest result =>
        rw [others] at passed
        cases passed
        obtain ⟨frame, found⟩ := describes.inside.exists_frame
        obtain ⟨v, settled, named, -, typed, described, -⟩ :=
          field_sound describes first fun strict => absurd strict loose
        obtain ⟨numbered, makes⟩ := field_bound found first
        obtain ⟨vs', bound, described', makesRest⟩ := ih described others
        rw [makes.next] at bound
        refine ⟨vs', .cons settled named (numbered v settled) (fun e same => ?_) bound, described', ?_⟩
        · obtain ⟨t, isTyped, -⟩ := typed e same
          exact isTyped.bound
        · rw [List.length_cons, Nat.add_comm]
          exact makes.trans makesRest

theorem bindParams_bound {c : Context} {g scope : ScopeId} {space space' : Space} {offset : Nat}
    {pairs : List (String × Ty)} (describes : Describes c space g scope)
    (passed : bindParams space scope offset pairs = (space', .ok ())) :
    Describes (c.extend (Variable.ofParams space.nextNumber pairs).reverse) space' g scope ∧
      space.Makes space' pairs.length (Variable.ofParams space.nextNumber pairs) := by
  induction pairs generalizing c space with
  | nil =>
    cases passed
    exact ⟨describes.extend_nil.symm ▸ describes, .refl _⟩
  | cons pair pairs ih =>
    rw [bindParams] at passed
    split at passed
    next => cases passed
    next space₁ v declared =>
      obtain ⟨frame, found⟩ := describes.inside.exists_frame
      obtain ⟨-, -, -, described, -⟩ := describes.declareVariable declared
      obtain ⟨rfl, makes⟩ := Space.Makes.declareVariable found declared
      obtain ⟨described', makesRest⟩ := ih described passed
      rw [makes.next] at described' makesRest
      refine ⟨?_, ?_⟩
      · rw [Context.extend_extend] at described'
        rw [Variable.ofParams, List.reverse_cons]
        exact described'
      · rw [List.length_cons, Nat.add_comm]
        exact makes.trans makesRest

theorem method_bound {c : Context} {g : ScopeId} {space space' : Space} {vs : List Variable} {m m' : Method}
    (describes : Describes c space g g) (loose : ¬ c.strict) (fields : c.frames = [vs])
    (passed : method c.catalog space g m = ⟨space', m', .ok ()⟩) :
    ∃ f, m'.Bound c.outerVariable? vs space.nextNumber f ∧ space.Makes space' m'.count m'.declared := by
  unfold method at passed
  split at passed
  next => cases passed
  next params result signed =>
    split at passed
    next => cases passed
    next space₁ f declared =>
      obtain ⟨frame, found, -⟩ := describes.global
      obtain ⟨-, rfl, -, declares⟩ := Space.declaresFunction_of_eq_some found declared
      obtain ⟨-, -, -, -, described⟩ := describes.declareFunction declared
      split at passed
      next => cases passed
      next unsettled =>
        unfold methodBody at passed
        dsimp only at passed
        split at passed
        next => cases passed
        next space₂ bound =>
          split at passed
          next => cases passed
          next space₃ body checked =>
            simp only [Checked.mk.injEq] at passed
            obtain ⟨rfl, rfl, -⟩ := passed
            rw [Space.child_snd] at bound checked
            have arity : f.params.length = m.params.length := signature_params signed
            have length : ((m.params.map Param.name).zip f.params).length = m.params.length := by
              rw [List.length_zip, List.length_map, arity, Nat.min_self]
            obtain ⟨inBody, makesParams⟩ := bindParams_bound described.child bound
            obtain ⟨boundBody, makesBody⟩ := block_bound inBody loose m.body checked
            have first : (space₁.child g).1.nextNumber = f.number + 1 := by
              rw [Space.nextNumber_child, declares.next, declares.numbered]
            rw [first, length] at makesParams
            rw [makesParams.next, first, Nat.add_assoc] at boundBody makesBody
            have makes := (((Space.Makes.declareFunction found declares).trans (.child space₁ g)).trans
              makesParams).trans makesBody
            refine ⟨f, ⟨rfl, declares.numbered, arity, ?_⟩, ?_⟩
            · rw [Context.extend_enter, List.append_nil, Context.enter, fields] at boundBody
              rw [Function.bodyNumber, List.length_map, Nat.add_assoc]
              exact boundBody
            · rw [Method.declared, Option.toList_some, List.flatMap_singleton, Function.bodyNumber, List.length_map,
                Nat.add_assoc]
              exact makes

theorem methods_bound {c : Context} {g : ScopeId} {space space' : Space} {vs : List Variable} {fs : List Function}
    {ms ms' : List Method} (describes : Describes { c with funs := fs } space g g) (loose : ¬ c.strict)
    (fields : c.frames = [vs])
    (passed : each (fun space m => method c.catalog space g m) space ms = ⟨space', ms', .ok ()⟩) :
    Method.BoundAll c.outerVariable? vs space.nextNumber ms' ∧
      ∀ v, space'.Binds v ↔ space.Binds v ∨ v ∈ ms'.flatMap Method.declared := by
  induction ms generalizing space fs ms' with
  | nil =>
    cases passed
    exact ⟨.nil, (Space.Makes.refl _).binds⟩
  | cons m ms ih =>
    rw [each] at passed
    split at passed
    next => cases passed
    next between m' first =>
      cases others : each (fun space m => method c.catalog space g m) between ms with
      | mk last rest result =>
        rw [others] at passed
        cases passed
        obtain ⟨h, -, -, described⟩ := method_sound describes first fun strict => absurd strict loose
        obtain ⟨f, bound, makes⟩ := method_bound describes loose fields first
        obtain ⟨boundRest, binds⟩ := ih described others
        refine ⟨.cons bound (makes.next ▸ boundRest), fun v => ?_⟩
        rw [binds, makes.binds, List.flatMap_cons, List.mem_append, or_assoc]

/-! ## Programs -/

/-- In a program that passes the check names hold the variables that they mean, and the variables that the check
has made are those of its declarations. -/
theorem checkSource_bound {catalog : Catalog} {needsMain : Bool} {space : Space} {outer : ScopeId} {s : Source}
    (passed : (checkSource catalog needsMain space outer s).result = .ok ()) :
    (∃ vs, (checkSource catalog needsMain space outer s).tree.Bound (space.lookupVariable? outer) space.nextNumber
        vs) ∧
      ∀ v, (checkSource catalog needsMain space outer s).space.Binds v ↔
        space.Binds v ∨ v ∈ (checkSource catalog needsMain space outer s).tree.declared := by
  cases checked : checkSource catalog needsMain space outer s with
  | mk space' s' result =>
    rw [checked] at passed
    cases passed
    unfold checkSource source at checked
    dsimp only at checked
    rw [Space.child_snd] at checked
    split at checked
    next => cases checked
    next space₁ fields checkedFields =>
      split at checked
      next => cases checked
      next space₂ methods checkedMethods =>
        simp only [Checked.mk.injEq] at checked
        obtain ⟨rfl, rfl, -⟩ := checked
        have describes := describes_start catalog space outer False
        obtain ⟨vs, boundFields, described, makes⟩ :=
          fields_bound (c := .start catalog space outer False) describes not_false checkedFields
        obtain ⟨boundMethods, binds⟩ :=
          methods_bound (c := { Context.start catalog space outer False with frames := [vs] })
            described not_false rfl checkedMethods
        rw [makes.next, Space.nextNumber_child] at boundMethods
        rw [Space.nextNumber_child] at boundFields
        refine ⟨⟨vs, boundFields, boundMethods⟩, fun v => ?_⟩
        rw [binds, makes.binds, (Space.Makes.child space outer).binds, Source.declared, List.mem_append]
        simp [or_assoc]

end Check

end Primer
