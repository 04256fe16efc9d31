import Primer.CommandLine.Program
import Primer.Proofs.Check.Soundness
import Primer.Proofs.Run.Frames
import Primer.Proofs.Tree.Bare
import Primer.Proofs.Tree.Variables

/-!
# What a check binds, however it ends

A check gives every block a frame of its own, and it may stop anywhere. Whatever it has done by then, it has bound
nothing in a frame that was there before, except what the phrase itself declares in the frame of its scope.

**The law** (`checks_bind_only_their_own`): a declaration or a field adds its own variable if its check passes and
nothing if not, and no other statement adds anything. A method is bound before its body is looked at, so it adds its
own function as soon as the names of its types are known and its own name is free, and it keeps it when its body
fails.

Nothing is asked of the space, so the law holds at every point of the check of a program.
-/

namespace Primer

namespace Space

variable {s s' s'' : Space} {scope : ScopeId}

/-- What goes on in a new scope changes no frame that was there. -/
theorem Grows.of_inner {opened : ScopeId → Prop} (later : Grows (· = (s.child scope).2) (s.child scope).1 s') :
    Grows opened s s' := by
  rw [child_snd] at later
  exact (Grows.of_child later).mono fun _ => False.elim

/-- That all frames that were there stay as they are, but for that of one scope. -/
def Spares (s : Space) (scope : ScopeId) (s' : Space) : Prop :=
  ∀ i f, i ≠ scope → s.frame? i = some f → s'.frame? i = some f

theorem Spares.refl (s : Space) (scope : ScopeId) : s.Spares scope s :=
  fun _ _ _ found => found

theorem Spares.trans (first : s.Spares scope s') (second : s'.Spares scope s'') : s.Spares scope s'' :=
  fun i f other found => second i f other (first i f other found)

theorem Grows.spares (grows : s.Grows (· = scope) s') : s.Spares scope s' :=
  fun _ _ other found => grows.frame?_eq other found

/-- What becomes of a space when one frame binds more variables and functions, and all others that were there stay as
they are. -/
structure Gains (s : Space) (scope : ScopeId) (vars : List Variable) (funs : List Function) (s' : Space) : Prop where
  here : ∀ f, s.frame? scope = some f →
    s'.frame? scope = some { f with vars := vars ++ f.vars, funs := funs ++ f.funs }
  elsewhere : s.Spares scope s'

namespace Gains

variable {vars : List Variable} {funs : List Function}

/-- What changes no frame may come after. -/
theorem grow (gains : s.Gains scope vars funs s') (grows : s'.Grows (fun _ => False) s'') :
    s.Gains scope vars funs s'' where
  here f found := grows.frame?_eq id (gains.here f found)
  elsewhere i f other found := grows.frame?_eq id (gains.elsewhere i f other found)

theorem refl (s : Space) (scope : ScopeId) : s.Gains scope [] [] s where
  here _ found := found
  elsewhere := .refl s scope

theorem declareVariable {name : String} {type : Ty} {v : Variable}
    (declared : s.declareVariable? scope name type = some (s', v)) :
    v.name = name ∧ v.number = s.nextNumber ∧ s.Gains scope [v] [] s' := by
  simp only [declareVariable?, defineVariable?] at declared
  split at declared
  next => cases declared
  next =>
    cases declared
    refine ⟨rfl, rfl, fun f found => ?_, fun i f other found => ?_⟩
    · rw [frame?_addVariable, if_pos rfl]
      exact congrArg _ found
    · rw [frame?_addVariable, if_neg (Ne.symm other)]
      exact found

theorem declareFunction {name : String} {params : List Ty} {result : Ty} {f : Function}
    (declared : s.declareFunction? scope name params result = some (s', f)) :
    f.name = name ∧ f.params = params ∧ f.number = s.nextNumber ∧ s.Gains scope [] [f] s' := by
  simp only [declareFunction?, defineFunction?] at declared
  split at declared
  next => cases declared
  next =>
    cases declared
    refine ⟨rfl, rfl, rfl, fun frame found => ?_, fun i frame other found => ?_⟩
    · rw [frame?_addFunction, if_pos rfl]
      exact congrArg _ found
    · rw [frame?_addFunction, if_neg (Ne.symm other)]
      exact found

end Gains

/-- A function can be declared exactly where its name and arity are free. -/
theorem declareFunction?_eq_none_iff {name : String} {params : List Ty} {result : Ty} :
    s.declareFunction? scope name params result = none ↔ s.holdsFunction scope name params.length = true := by
  simp only [declareFunction?, defineFunction?]
  split
  next held => exact ⟨fun _ => held, fun _ => rfl⟩
  next free =>
    refine ⟨fun absent => ?_, fun held => absurd held free⟩
    cases absent

end Space

namespace Check

variable (catalog : Catalog)

/-! ## Statements -/

/-- A declaration fails and changes nothing, or it declares a variable, which its slot is settled with if it is
empty. -/
theorem declaration_cases (space : Space) (scope : ScopeId) (name : String) (typeName : Option String)
    (initializer : Option Expr) (offset : Nat) (binding : Option Variable) :
    let c := declaration catalog space scope name typeName initializer offset binding
    (∃ problem, c.result = .error problem ∧ c.space = space) ∨
      ∃ type v, space.declareVariable? scope name type = some (c.space, v) ∧
        (binding = none → c.result = .ok () ∧ c.tree.bindings = [v]) := by
  have bound : ∀ (value : Option Expr) (type : Ty),
      let c := bindDeclaration space scope name type offset binding (.declaration name typeName value offset ·)
      (∃ problem, c.result = .error problem ∧ c.space = space) ∨
        ∃ type v, space.declareVariable? scope name type = some (c.space, v) ∧
          (binding = none → c.result = .ok () ∧ c.tree.bindings = [v]) := by
    intro value type
    unfold bindDeclaration
    split
    next => exact .inl ⟨_, rfl, rfl⟩
    next v declared =>
      cases binding with
      | none => exact .inr ⟨type, v, declared, fun _ => ⟨rfl, rfl⟩⟩
      | some => exact .inr ⟨type, v, declared, fun absent => absurd absent (Option.some_ne_none _)⟩
  unfold declaration
  cases initializer with
  | none =>
    dsimp only
    split
    next => exact .inl ⟨_, rfl, rfl⟩
    next => exact .inl ⟨_, rfl, rfl⟩
    next => exact bound _ _
  | some value =>
    dsimp only
    split
    next => exact .inl ⟨_, rfl, rfl⟩
    next =>
    split
    next => exact .inl ⟨_, rfl, rfl⟩
    next => exact .inl ⟨_, rfl, rfl⟩
    next => exact bound _ _

theorem space_assignment (space : Space) (scope : ScopeId) (target value : Expr) (offset : Nat) :
    (assignment catalog space scope target value offset).space = space := by
  unfold assignment
  split
  next =>
    split
    next => rfl
    next => split <;> rfl
  next => rfl

mutual
theorem grows_stmt (space : Space) (scope : ScopeId) (s : Stmt) :
    space.Grows (fun i => s.isDeclaration ∧ i = scope) (stmt catalog space scope s).space := by
  cases s with
  | expression e offset =>
    rw [stmt]
    split
    next => split <;> exact .refl _ _
    next => exact .refl _ _
  | declaration name typeName initializer offset binding =>
    rw [stmt]
    rcases declaration_cases catalog space scope name typeName initializer offset binding with
      ⟨-, -, same⟩ | ⟨_, _, declared, -⟩
    · rw [same]
      exact .refl _ _
    · exact (Space.Grows.declareVariable declared).mono fun _ here => ⟨rfl, here⟩
  | assignment target value offset =>
    rw [stmt, space_assignment]
    exact .refl _ _
  | conditional c thenPart elsePart offset =>
    rw [stmt]
    split
    next => exact .refl _ _
    next =>
    split
    next => exact .refl _ _
    next =>
      have first := grows_block (space.child scope).1 (space.child scope).2 thenPart
      dsimp only
      split
      next checked =>
        rw [checked] at first
        exact .of_inner first
      next space' _ checked =>
        rw [checked] at first
        have second := grows_block (space'.child scope).1 (space'.child scope).2 elsePart
        exact (Space.Grows.of_inner first).trans (.of_inner second)
  | forEach name iterable body offset =>
    rw [stmt]
    split
    next => exact .refl _ _
    next =>
    split
    next => exact .refl _ _
    next =>
    split
    next => exact .refl _ _
    next =>
      dsimp only
      split
      next => exact .of_inner (.refl _ _)
      next space' _ declared =>
        have inside := grows_block space' (space.child scope).2 body
        exact .of_inner ((Space.Grows.declareVariable declared).trans inside)
  | whileLoop c body offset =>
    rw [stmt]
    split
    next => exact .refl _ _
    next => exact .of_inner (grows_block (space.child scope).1 (space.child scope).2 body)
  | ret value offset =>
    rw [stmt]
    split <;> exact .refl _ _
  | unknown offset =>
    rw [stmt]
    exact .refl _ _

theorem grows_block (space : Space) (scope : ScopeId) (ss : List Stmt) :
    space.Grows (· = scope) (block catalog space scope ss).space := by
  cases ss with
  | nil =>
    rw [block]
    exact .refl _ _
  | cons s ss =>
    have first := (grows_stmt space scope s).mono fun _ opened => opened.2
    rw [block]
    split
    next checked =>
      rw [checked] at first
      exact first
    next space' _ checked =>
      rw [checked] at first
      exact first.trans (grows_block space' scope ss)
end

/-! ## Fields and methods -/

/-- A field fails and changes nothing, or it declares a variable, which its slot is settled with if it is empty. -/
theorem field_cases (space : Space) (scope : ScopeId) (f : Field) :
    let c := field catalog space scope f
    (∃ problem, c.result = .error problem ∧ c.space = space) ∨
      ∃ type v, space.declareVariable? scope f.name type = some (c.space, v) ∧
        (f.binding = none → c.result = .ok () ∧ c.tree.binding = some v) := by
  unfold field
  split
  next => exact .inl ⟨_, rfl, rfl⟩
  next =>
  split
  next => exact .inl ⟨_, rfl, rfl⟩
  next =>
    dsimp only
    split
    next => exact .inl ⟨_, rfl, rfl⟩
    next v declared =>
      cases f.binding with
      | none => exact .inr ⟨_, v, declared, fun _ => ⟨rfl, rfl⟩⟩
      | some => exact .inr ⟨_, v, declared, fun absent => absurd absent (Option.some_ne_none _)⟩

theorem grows_bindParams (space : Space) (scope : ScopeId) (offset : Nat) (params : List (String × Ty)) :
    space.Grows (· = scope) (bindParams space scope offset params).1 := by
  induction params generalizing space with
  | nil => exact .refl _ _
  | cons param params ih =>
    rw [bindParams]
    split
    next => exact .refl _ _
    next declared => exact (Space.Grows.declareVariable declared).trans (ih _)

/-- The body of a method changes no frame that was there, and the function of the method is not looked at. -/
theorem grows_methodBody (space : Space) (scope : ScopeId) (params : List Ty) (result : Ty) (m : Method) :
    let c := methodBody catalog space scope params result m
    space.Grows (fun _ => False) c.space ∧ c.tree.callee = m.callee := by
  have bound := grows_bindParams (space.child scope).1 (space.child scope).2 m.offset
    ((m.params.map Param.name).zip params)
  unfold methodBody
  dsimp only
  split
  next failed =>
    rw [failed] at bound
    exact ⟨.of_inner bound, rfl⟩
  next space' passed =>
    rw [passed] at bound
    have inside := grows_block catalog space' (space.child scope).2 m.body
    split
    next failed =>
      rw [failed] at inside
      exact ⟨.of_inner (bound.trans inside), rfl⟩
    next checked =>
      rw [checked] at inside
      exact ⟨.of_inner (bound.trans inside), rfl⟩

end Check

/-- That the names of the types of a method are known, and that it is free to be bound in the frame of a scope. -/
structure Method.Declarable (m : Method) (space : Space) (scope : ScopeId) : Prop where
  params : ∀ p ∈ m.params, (Ty.ofName? p.typeName).isSome
  result : ∀ name ∈ m.resultTypeName, (Ty.ofName? name).isSome
  free : space.holdsFunction scope m.name m.params.length = false

namespace Check

theorem exists_named_iff {name : String} {offset : Nat} :
    (∃ t, Ty.named name offset = .ok t) ↔ (Ty.ofName? name).isSome := by
  unfold Ty.named
  cases Ty.ofName? name with
  | none => simp
  | some t => simp

theorem exists_signature_iff {m : Method} :
    (∃ types, signature m = .ok types) ↔ (∀ p ∈ m.params, (Ty.ofName? p.typeName).isSome) ∧
      ∀ name ∈ m.resultTypeName, (Ty.ofName? name).isSome := by
  unfold signature
  rw [Except.exists_bind_eq_ok_iff (P := ∀ name ∈ m.resultTypeName, (Ty.ofName? name).isSome),
    Except.exists_mapM_eq_ok_iff]
  · simp only [exists_named_iff]
  · intro params
    cases m.resultTypeName with
    | none => simp [bind, Except.bind, pure, Except.pure]
    | some name =>
      dsimp only
      rw [Except.exists_bind_pure_eq_ok_iff, exists_named_iff]
      simp

variable (catalog : Catalog) {m : Method} {space : Space} {scope : ScopeId}

/-- A method that can be declared is, and its slot is settled with its function, however its body turns out. -/
theorem method_of_declarable (declarable : m.Declarable space scope) (empty : m.callee = none) :
    let c := method catalog space scope m
    ∃ f, c.tree.callee = some f ∧ f.name = m.name ∧ f.arity = m.params.length ∧ f.number = space.nextNumber ∧
      space.Gains scope [] [f] c.space := by
  obtain ⟨⟨params, result⟩, signed⟩ := exists_signature_iff.mpr ⟨declarable.params, declarable.result⟩
  have arity := signature_params signed
  unfold method
  rw [signed]
  dsimp only
  split
  next failed =>
    have held := Space.declareFunction?_eq_none_iff.mp failed
    rw [arity, declarable.free] at held
    cases held
  next space' f declared =>
    obtain ⟨named, typed, numbered, gains⟩ := Space.Gains.declareFunction declared
    obtain ⟨grows, settled⟩ := grows_methodBody catalog space' scope params result { m with callee := some f }
    rw [empty]
    exact ⟨f, settled, named, by rw [Function.arity, typed, arity], numbered, gains.grow grows⟩

/-- A method that cannot be declared fails and changes nothing. -/
theorem method_of_not_declarable (undeclarable : ¬ m.Declarable space scope) :
    let c := method catalog space scope m
    (∃ problem, c.result = .error problem) ∧ c.space = space := by
  unfold method
  split
  next => exact ⟨⟨_, rfl⟩, rfl⟩
  next params result signed =>
    split
    next => exact ⟨⟨_, rfl⟩, rfl⟩
    next declared =>
      obtain ⟨known, known'⟩ := exists_signature_iff.mp ⟨_, signed⟩
      refine absurd ⟨known, known', Bool.eq_false_iff.mpr fun held => ?_⟩ undeclarable
      rw [← signature_params signed] at held
      rw [Space.declareFunction?_eq_none_iff.mpr held] at declared
      cases declared

end Check

/-- Of the scopes that were there before, the check of a phrase changes its own at most, and adds to it the record in
the slot of the phrase alone: that of a declaration or a field that passes, and that of a method whose signature is
sound and whose name is free, whether or not its body passes. -/
theorem checks_bind_only_their_own (catalog : Catalog) (space : Space) (scope : ScopeId) :
    (∀ s : Stmt, s.bare = s →
      let c := Check.stmt catalog space scope s
      match s, c.result with
      | .declaration name .., .ok () =>
        ∃ v, c.tree.bindings = [v] ∧ v.name = name ∧ v.number = space.nextNumber ∧ space.Gains scope [v] [] c.space
      | _, _ => space.Gains scope [] [] c.space) ∧
    (∀ f : Field, f.bare = f →
      let c := Check.field catalog space scope f
      match c.result with
      | .ok () =>
        ∃ v, c.tree.binding = some v ∧ v.name = f.name ∧ v.number = space.nextNumber ∧
          space.Gains scope [v] [] c.space
      | .error _ => space.Gains scope [] [] c.space) ∧
    ∀ m : Method, m.bare = m →
      let c := Check.method catalog space scope m
      (c.result = .ok () → m.Declarable space scope) ∧
      (m.Declarable space scope →
        ∃ f, c.tree.callee = some f ∧ f.name = m.name ∧ f.arity = m.params.length ∧ f.number = space.nextNumber ∧
          space.Gains scope [] [f] c.space) ∧
      (¬ m.Declarable space scope → space.Gains scope [] [] c.space) := by
  refine ⟨fun s empty => ?_, fun f empty => ?_,
    fun m empty => ⟨fun passed => ?_, fun declarable => ?_, fun other => ?_⟩⟩
  · have others : s.isDeclaration = false → space.Gains scope [] [] (Check.stmt catalog space scope s).space := by
      intro other
      apply (Space.Gains.refl space scope).grow
      exact (Check.grows_stmt catalog space scope s).mono fun i opened => by simp [other] at opened
    cases s with
    | declaration name typeName initializer offset binding =>
      have unsettled : binding = none := by
        injection empty with _ _ _ _ same
        exact same.symm
      dsimp only
      rw [Check.stmt]
      rcases Check.declaration_cases catalog space scope name typeName initializer offset binding with
        ⟨_, failed, same⟩ | ⟨_, v, declared, passes⟩
      · rw [failed, same]
        exact .refl _ _
      · obtain ⟨named, numbered, gains⟩ := Space.Gains.declareVariable declared
        obtain ⟨passed, settled⟩ := passes unsettled
        rw [passed]
        exact ⟨v, settled, named, numbered, gains⟩
    | _ => exact others rfl
  · have unsettled : f.binding = none := by
      rw [← empty]
      rfl
    dsimp only
    rcases Check.field_cases catalog space scope f with ⟨_, failed, same⟩ | ⟨_, v, declared, passes⟩
    · rw [failed, same]
      exact .refl _ _
    · obtain ⟨named, numbered, gains⟩ := Space.Gains.declareVariable declared
      obtain ⟨passed, settled⟩ := passes unsettled
      rw [passed]
      exact ⟨v, settled, named, numbered, gains⟩
  · by_contra undeclarable
    obtain ⟨problem, failed⟩ := (Check.method_of_not_declarable catalog undeclarable).1
    cases failed.symm.trans passed
  · apply Check.method_of_declarable catalog declarable
    rw [← empty]
    rfl
  · rw [(Check.method_of_not_declarable catalog other).2]
    exact .refl _ _

/-! ## Programs -/

namespace Check

variable (catalog : Catalog)

theorem spares_field (space : Space) (scope : ScopeId) (f : Field) :
    space.Spares scope (field catalog space scope f).space := by
  rcases field_cases catalog space scope f with ⟨-, -, same⟩ | ⟨_, _, declared, -⟩
  · rw [same]
    exact .refl _ _
  · exact (Space.Grows.declareVariable declared).spares

theorem spares_method (space : Space) (scope : ScopeId) (m : Method) :
    space.Spares scope (method catalog space scope m).space := by
  unfold method
  split
  next => exact .refl _ _
  next params result _ =>
    split
    next => exact .refl _ _
    next space' f declared =>
      obtain ⟨-, -, -, gains⟩ := Space.Gains.declareFunction declared
      split
      next => exact gains.elsewhere
      next =>
        obtain ⟨grows, -⟩ := grows_methodBody catalog space' scope params result { m with callee := some f }
        exact (gains.grow grows).elsewhere

theorem spares_each {τ : Type} {scope : ScopeId} {check : Space → τ → Checked τ}
    (spares : ∀ (space : Space) x, space.Spares scope (check space x).space) (space : Space) (xs : List τ) :
    space.Spares scope (each check space xs).space := by
  induction xs generalizing space with
  | nil => exact .refl _ _
  | cons x xs ih =>
    have first := spares space x
    rw [each]
    split
    next checked =>
      rw [checked] at first
      exact first
    next checked =>
      rw [checked] at first
      exact first.trans (ih _)

theorem spares_source (needsMain : Bool) (space : Space) (scope : ScopeId) (s : Source) :
    space.Spares scope (source catalog needsMain space scope s).space := by
  have fields := spares_each (fun space f => spares_field catalog space scope f) space s.fields
  unfold source
  split
  next checked =>
    rw [checked] at fields
    exact fields
  next space' _ checked =>
    rw [checked] at fields
    have methods := spares_each (fun space m => spares_method catalog space scope m) space' s.methods
    split
    next checked' =>
      rw [checked'] at methods
      exact fields.trans methods
    next checked' =>
      rw [checked'] at methods
      exact fields.trans methods

end Check

/-- The check of a program leaves all frames that were there as they were. -/
theorem frame?_checkSource (catalog : Catalog) (needsMain : Bool) {space : Space} (outer : ScopeId) (s : Source)
    {i : ScopeId} {f : Frame} (found : space.frame? i = some f) :
    (checkSource catalog needsMain space outer s).space.frame? i = some f := by
  have kept : (space.child outer).1.frame? i = some f :=
    (Space.Grows.of_child (.refl _ _)).frame?_eq id found
  apply Check.spares_source catalog needsMain (space.child outer).1 (space.child outer).2 s i f _ kept
  rw [Space.child_snd]
  exact Nat.ne_of_lt (Space.frame?_lt found)

/-- A space with the scope of a program inside the root scope. -/
def twoScopes : Space :=
  (CommandLine.rootWorld.1.space.child CommandLine.rootWorld.2).1

/-- A method whose body uses a name that means nothing fails, and its function stays bound. A loop that declares that
name binds it in a frame of its own. -/
theorem failed_method_stays_bound :
    let m : Method := {
      name := "f", params := [⟨"x", "Integer"⟩], resultTypeName := none, offset := 0
      body := [.ret (.ref "y" 25) 18] }
    let loop : Stmt := .whileLoop (.literal (.bool true) 6) [.declaration "y" none (some (.literal (.int 1) 22)) 14] 0
    (m.bare = m ∧ m.Declarable twoScopes 1 ∧
      (Check.method {} twoScopes 1 m).result = .error (.complaint (.unknownVariable "y") 25) ∧
      ∃ f, f.name = "f" ∧ f.arity = 1 ∧ twoScopes.Gains 1 [] [f] (Check.method {} twoScopes 1 m).space) ∧
    loop.bare = loop ∧ (Check.stmt {} twoScopes 1 loop).result = .ok () ∧
      twoScopes.Gains 1 [] [] (Check.stmt {} twoScopes 1 loop).space := by
  intro m loop
  obtain ⟨statements, -, methods⟩ := checks_bind_only_their_own {} twoScopes 1
  have declarable : m.Declarable twoScopes 1 := ⟨by decide, by decide, by decide⟩
  obtain ⟨-, declares, -⟩ := methods m rfl
  obtain ⟨f, -, named, arity, -, gains⟩ := declares declarable
  exact ⟨⟨rfl, declarable, by decide +kernel, f, named, arity, gains⟩, rfl, by decide +kernel, statements loop rfl⟩

end Primer
