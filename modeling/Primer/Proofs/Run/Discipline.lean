import Primer.CommandLine.Program
import Primer.Proofs.Run.Frames

/-!
# Which names a run binds

Every block runs in a frame of its own, and so does every round of a loop and every call of a method. What is
bound there is not bound in any frame that was there before.

**The law** (`runs_bind_declared_names_only`): whatever an expression does, and however its evaluation ends, all
frames bind what they bound, and objects have the fields and methods they had. The same is true of a statement,
but for a declaration that comes to its end: it binds one new variable, of its own name, in the frame of its
own scope. Only the values of variables may be others than before.

Nothing is asked of the code or of the world, except that the native functions define no names themselves
(`World.Tame`).
-/

namespace Primer

/-- That the objects of a store have the same fields in another. -/
def Store.Retains (s s' : Store) : Prop :=
  ∀ (i : Nat) (o : Object), s.objects[i]? = some o → s'.objects[i]? = some o

/-- That a native function gives no object a field and takes none away, whether or not it fails. -/
def Native.Tame (f : Native) : Prop :=
  ∀ args s,
    match f args s with
    | .ok _ s' => s.Retains s'
    | .error _ s' => s.Retains s'

namespace World

/-- That the native functions of a world define no names. -/
def Tame (w : World) : Prop :=
  ∀ n f, w.bodies.get? n = some (.native f) → f.Tame

/-- What becomes of a world when all its frames bind what they bound and a few new variables, and nothing else
is bound: the objects have the same fields and methods, and functions do the same. -/
structure Binds (new : ScopeId → List Variable) (w w' : World) : Prop where
  frames : ∀ i f, w.space.frame? i = some f → w'.space.frame? i = some { f with vars := new i ++ f.vars }
  fields : w.store.Retains w'.store
  methods : w'.methods = w.methods
  bodies : w'.bodies = w.bodies

variable {w w' w'' : World} {new : ScopeId → List Variable}

theorem Tame.allows (tame : w.Tame) : Store.Allows Store.Retains w.bodies where
  refl _ _ _ isObject := isObject
  trans first second i o isObject := second i o (first i o isObject)
  write _ _ _ _ _ isObject := isObject
  native n f isBody := tame n f isBody

theorem Binds.refl (w : World) : w.Binds (fun _ => []) w :=
  ⟨fun _ _ found => found, fun _ _ isObject => isObject, rfl, rfl⟩

/-- What binds nothing may come first. -/
theorem Binds.trans (first : w.Binds (fun _ => []) w') (second : w'.Binds new w'') : w.Binds new w'' where
  frames i f found := second.frames i f (first.frames i f found)
  fields i o isObject := second.fields i o (first.fields i o isObject)
  methods := second.methods.trans first.methods
  bodies := second.bodies.trans first.bodies

theorem Keeps.binds (keeps : w.Keeps Store.Retains (fun _ => False) w') : w.Binds (fun _ => []) w' where
  frames _ _ found := keeps.space.frame?_eq id found
  fields := keeps.store
  methods := keeps.methods
  bodies := keeps.bodies

theorem Binds.holdsVariable_eq_false {scope : ScopeId} {name : String} (binds : w.Binds (fun _ => []) w')
    (free : w'.space.holdsVariable scope name = false) : w.space.holdsVariable scope name = false := by
  unfold Space.holdsVariable at free ⊢
  cases found : w.space.frame? scope with
  | none => rfl
  | some f =>
    rw [binds.frames scope f found] at free
    exact free

end World

namespace Run

variable {α : Type} {w w' w'' : World} {scope : ScopeId} {name : String}

/-- That a variable, new to the world, is bound in a scope that had none of its name, and nothing else is. -/
def Declares (scope : ScopeId) (name : String) (w w' : World) : Prop :=
  w.space.holdsVariable scope name = false ∧
    ∃ v : Variable, v.name = name ∧ w.space.nextNumber ≤ v.number ∧
      w.Binds (fun i => if i = scope then [v] else []) w'

/-- How a declaration may end: it has declared its name, or it stopped and nothing is bound. -/
def EndsDeclaring (scope : ScopeId) (name : String) (w : World) : EStateM.Result Stop World α → Prop
  | .ok _ w' => Declares scope name w w'
  | .error _ w' => w.Binds (fun _ => []) w'

/-- What binds nothing may come first. -/
theorem Declares.of_keeps (before : w.Keeps Store.Retains (fun _ => False) w') (declares : Declares scope name w' w'') :
    Declares scope name w w'' := by
  obtain ⟨free, v, named, later, binds⟩ := declares
  refine ⟨before.binds.holdsVariable_eq_false free, v, named, ?_, before.binds.trans binds⟩
  exact Nat.le_trans before.space.number later

theorem bind_endsDeclaring (scope : ScopeId) (name : String) (x : Value) (w : World) :
    EndsDeclaring scope name w (Run.bind scope name x w) := by
  obtain ⟨space, store, bodies, methods⟩ := w
  dsimp only [Run.bind]
  cases held : space.holdsVariable scope name with
  | true => exact .refl _
  | false =>
    refine ⟨held, (space.newVariable name .any).2, rfl, Nat.le_refl _, ?_, fun _ _ isObject => isObject, rfl, rfl⟩
    intro i f found
    rw [Space.frame?_addVariable]
    by_cases here : i = scope
    · subst here
      rw [if_pos rfl, if_pos rfl]
      exact congrArg _ found
    · rw [if_neg (Ne.symm here), if_neg here]
      exact found

/-- A value is computed, and then a name is bound to it. -/
theorem endsDeclaring_of_keepingAll {first : Run Value} (keeping : KeepingAll Store.Retains w.bodies first)
    (scope : ScopeId) (name : String) :
    EndsDeclaring scope name w ((do let x ← first; Run.bind scope name x; return (none : Option Value) : Run _) w) := by
  have before := keeping w rfl
  change EndsDeclaring scope name w (EStateM.bind first _ w)
  unfold EStateM.bind
  cases ran : first w with
  | error stop w₁ =>
    rw [ran] at before
    exact before.binds
  | ok x w₁ =>
    rw [ran] at before
    have bound := bind_endsDeclaring scope name x w₁
    change EndsDeclaring scope name w (EStateM.bind (Run.bind scope name x) _ w₁)
    unfold EStateM.bind
    cases ended : Run.bind scope name x w₁ with
    | error stop w₂ =>
      rw [ended] at bound
      exact before.binds.trans bound
    | ok _ w₂ =>
      rw [ended] at bound
      exact bound.of_keeps before

theorem execute_declaration (tame : w.Tame) (fuel calls : Nat) (scope : ScopeId) (name : String)
    (typeName : Option String) (initializer : Option Expr) (offset : Nat) (binding : Option Variable) :
    EndsDeclaring scope name w
      (execute fuel calls scope (.declaration name typeName initializer offset binding) w) := by
  unfold execute Conduct.execute
  cases fuel with
  | zero => exact .refl w
  | succ fuel =>
    cases initializer with
    | none => exact endsDeclaring_of_keepingAll (keeping_pure tame.allows _) scope name
    | some e => exact endsDeclaring_of_keepingAll (evaluate_keeps tame.allows fuel calls scope e) scope name

theorem evaluate_binds_nothing (tame : w.Tame) (fuel calls : Nat) (scope : ScopeId) (e : Expr) :
    w.Binds (fun _ => []) (last (evaluate fuel calls scope e w)) :=
  (evaluate_keeps tame.allows fuel calls scope e w rfl).binds

theorem execute_binds_nothing (tame : w.Tame) (fuel calls : Nat) (scope : ScopeId) {s : Stmt}
    (other : s.isDeclaration = false) : w.Binds (fun _ => []) (last (execute fuel calls scope s w)) := by
  have keeps := execute_keeps tame.allows fuel calls scope s w rfl
  exact (keeps.mono fun i opened => by simp [other] at opened).binds

end Run

/-- In the scopes that were open before, an expression binds nothing, however it ends, and a statement nothing but the
variable that it declares, in its own scope and if it ends well. -/
theorem runs_bind_declared_names_only {w : World} (tame : w.Tame) (fuel calls : Nat) (scope : ScopeId) :
    (∀ e, w.Binds (fun _ => []) (Run.last (Run.evaluate fuel calls scope e w))) ∧
      ∀ s : Stmt,
        match s, Run.execute fuel calls scope s w with
        | .declaration name .., .ok _ w' => Run.Declares scope name w w'
        | _, ended => w.Binds (fun _ => []) (Run.last ended) := by
  refine ⟨Run.evaluate_binds_nothing tame fuel calls scope, fun s => ?_⟩
  cases s with
  | declaration name typeName initializer offset binding =>
    have declares := Run.execute_declaration tame fuel calls scope name typeName initializer offset binding
    cases ended : Run.execute fuel calls scope (.declaration name typeName initializer offset binding) w with
    | ok outcome w' =>
      rw [ended] at declares
      exact declares
    | error stop w' =>
      rw [ended] at declares
      exact declares
  | _ => exact Run.execute_binds_nothing tame fuel calls scope rfl

namespace Native

theorem print_tame : Tame print := by
  intro args s
  unfold print
  cases (nth args 0).display? with
  | none => exact fun _ _ isObject => isObject
  | some text => exact fun _ _ isObject => isObject

theorem writeField_tame (name : String) : Tame (writeField name) := by
  intro args s
  cases found : s.field (nth args 0) name with
  | ok v =>
    have ran : writeField name args s = .ok .nil (s.write v (nth args 1)) := by
      change EStateM.run (writeField name args) s = _
      unfold writeField
      simp only [EStateM.run_bind, EStateM.run_get, found, EStateM.run_set, EStateM.run_pure]
    rw [ran]
    exact fun _ _ isObject => isObject
  | error fault =>
    have ran : writeField name args s = .error fault s := by
      change EStateM.run (writeField name args) s = _
      unfold writeField
      simp only [EStateM.run_bind, EStateM.run_get, found]
      rfl
    rw [ran]
    exact fun _ _ isObject => isObject

end Native

/-- The world with the root scope, in which a variable holds an object that can be resized. -/
def boxWorld : World :=
  let (w, scope) := CommandLine.rootWorld
  let (w, box) := w.newObject "Box"
  let (w, _) := w.defineField 0 "size" (.int 1)
  let (w, _) := w.defineMethod 0 "resize" 1 (Native.writeField "size")
  match w.declareVariable? scope "box" .any (some box) none with
  | some (w, _) => w
  | none => w

theorem boxWorld_tame : boxWorld.Tame := by
  intro n f isBody
  have bodies : boxWorld.bodies =
      (Table.set {} 0 (Body.native Native.print)).set 2 (Body.native (Native.writeField "size")) := rfl
  rw [bodies, Table.get?_set, Table.get?_set] at isBody
  split at isBody
  · cases isBody
    exact Native.writeField_tame "size"
  · split at isBody
    · cases isBody
      exact Native.print_tame
    · cases isBody

/-- Whether a statement came to its end without a value. -/
def Run.completed : EStateM.Result Stop World (Option Value) → Bool
  | .ok none _ => true
  | _ => false

/-- A declaration whose initializer gives a field of an object another value. -/
theorem resized_box_binds_result :
    let result : Stmt := .declaration "result" none (some (.send (.ref "box" 13) "resize" [.literal (.int 3) 24] 13)) 0
    boxWorld.Tame ∧ ∃ w' v, Run.execute 9 9 0 result boxWorld = .ok none w' ∧ v.name = "result" ∧
      boxWorld.Binds (fun i => if i = 0 then [v] else []) w' := by
  intro result
  have binds := (runs_bind_declared_names_only boxWorld_tame 9 9 0).2 result
  have completed : Run.completed (Run.execute 9 9 0 result boxWorld) := by decide +kernel
  refine ⟨boxWorld_tame, ?_⟩
  unfold Run.completed at completed
  split at completed
  next w' ran =>
    rw [ran] at binds
    obtain ⟨-, v, named, -, binds⟩ := binds
    exact ⟨w', v, ran, named, binds⟩
  next => cases completed

end Primer
