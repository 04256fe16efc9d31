import Primer.Proofs.Space.Growth
import Primer.Run.Program

/-!
# What a run leaves alone

Running code changes the values of variables and adds frames. Beyond that, an expression changes no frame
that was there; a statement adds variables to the frame of its own scope only, and only if it is a
declaration. What functions do, and which methods objects have, stays as it was. All of this holds also of a
run that stops early, and of code that was never checked.

**The laws** are those of the seven mutually recursive functions, `evaluate_keeps` to `whileLoop_keeps`.
Besides frames they speak of the store, through a relation that writing and the native functions of the
world are assumed to respect.
-/

namespace Primer

/-- Whether a statement declares a variable. -/
def Stmt.isDeclaration : Stmt → Bool
  | .declaration .. => true
  | _ => false

/-- The world that a run ends in, however it ends. -/
def Run.last {α : Type} : EStateM.Result Stop World α → World
  | .ok _ w => w
  | .error _ w => w

/-- What becomes of a world when its space grows, its store changes as allowed, and nothing else
happens. -/
structure World.Keeps (S : Store → Store → Prop) (opened : ScopeId → Prop) (w w' : World) : Prop where
  space : w.space.Grows opened w'.space
  bodies : w'.bodies = w.bodies
  methods : w'.methods = w.methods
  store : S w.store w'.store

/-- That a relation on stores allows writing, and what the native functions among some bodies do. -/
structure Store.Allows (S : Store → Store → Prop) (bodies : Table Body) : Prop where
  refl : ∀ s, S s s
  trans : ∀ {s s' s''}, S s s' → S s' s'' → S s s''
  write : ∀ s v x, S s (s.write v x)
  native : ∀ n f, bodies.get? n = some (.native f) → ∀ args s,
    match f args s with
    | .ok _ s' => S s s'
    | .error _ s' => S s s'

/-- Any change of the store is allowed when nothing is asked of it. -/
theorem Store.allows_any (bodies : Table Body) : Store.Allows (fun _ _ => True) bodies where
  refl _ := trivial
  trans _ _ := trivial
  write _ _ _ := trivial
  native n f _ args s := by split <;> trivial

namespace World.Keeps

variable {S : Store → Store → Prop} {opened : ScopeId → Prop} {w w' w'' : World} {bodies : Table Body}

theorem refl (allows : Store.Allows S bodies) (opened : ScopeId → Prop) (w : World) : Keeps S opened w w :=
  ⟨.refl opened _, rfl, rfl, allows.refl _⟩

theorem trans (allows : Store.Allows S bodies) (first : Keeps S opened w w') (second : Keeps S opened w' w'') :
    Keeps S opened w w'' :=
  ⟨first.space.trans second.space, second.bodies.trans first.bodies, second.methods.trans first.methods,
    allows.trans first.store second.store⟩

theorem mono {opened' : ScopeId → Prop} (keeps : Keeps S opened w w') (wider : ∀ i, opened i → opened' i) :
    Keeps S opened' w w' :=
  ⟨keeps.space.mono wider, keeps.bodies, keeps.methods, keeps.store⟩

end World.Keeps

namespace Run

variable {α β : Type} {S : Store → Store → Prop} {bodies : Table Body} {opened : ScopeId → Prop}

/-- That a run which starts with these bodies keeps the world but for open frames. -/
def Keeping (S : Store → Store → Prop) (bodies : Table Body) (opened : ScopeId → Prop) (x : Run α) : Prop :=
  ∀ w : World, w.bodies = bodies → w.Keeps S opened (last (x w))

/-- That a run which starts with these bodies keeps all frames that were there. -/
abbrev KeepingAll (S : Store → Store → Prop) (bodies : Table Body) (x : Run α) : Prop :=
  Keeping S bodies (fun _ => False) x

theorem Keeping.mono {opened' : ScopeId → Prop} {x : Run α} (keeping : Keeping S bodies opened x)
    (wider : ∀ i, opened i → opened' i) : Keeping S bodies opened' x :=
  fun w same => (keeping w same).mono wider

theorem KeepingAll.open {x : Run α} (keeping : KeepingAll S bodies x) : Keeping S bodies opened x :=
  keeping.mono fun _ => False.elim

/-- A step that goes by the bodies goes by these. -/
theorem keeping_bodies {f : World → Run α} (others : ∀ w, w.bodies = bodies → Keeping S bodies opened (f w)) :
    Keeping S bodies opened (get >>= f) :=
  fun w same => others w same w same

/-- What runs in a new scope may open it. -/
theorem keepingAll_child {scope : ScopeId} {f : ScopeId → Run α}
    (inside : ∀ inner, Keeping S bodies (· = inner) (f inner)) : KeepingAll S bodies (child scope >>= f) := by
  intro w same
  have later := inside w.space.frames.size { w with space := (w.space.child scope).1 } same
  change w.Keeps S _ (last (f (w.space.child scope).2 { w with space := (w.space.child scope).1 }))
  rw [Space.child_snd]
  exact ⟨.of_child later.space, later.bodies, later.methods, later.store⟩

section

variable (allows : Store.Allows S bodies)
include allows

theorem keeping_pure (a : α) : Keeping S bodies opened (pure a : Run α) :=
  fun w _ => .refl allows opened w

theorem keeping_throw (stop : Stop) : Keeping S bodies opened (throw stop : Run α) :=
  fun w _ => .refl allows opened w

theorem keeping_get : Keeping S bodies opened (get : Run World) :=
  fun w _ => .refl allows opened w

theorem Keeping.bind {x : Run α} {f : α → Run β} (first : Keeping S bodies opened x)
    (others : ∀ a, Keeping S bodies opened (f a)) : Keeping S bodies opened (x >>= f) := by
  intro w same
  have keeps := first w same
  change w.Keeps S opened (last (EStateM.bind x f w))
  unfold EStateM.bind
  cases ran : x w with
  | error stop w' =>
    rw [ran] at keeps
    exact keeps
  | ok a w' =>
    rw [ran] at keeps
    exact keeps.trans allows (others a w' (keeps.bodies.trans same))

theorem keeping_ofExcept (result : Except Fault α) : Keeping S bodies opened (ofExcept result) := by
  cases result with
  | ok a => exact keeping_pure allows a
  | error fault => exact keeping_throw allows _

theorem keeping_bind (scope : ScopeId) (name : String) (x : Value) :
    Keeping S bodies (· = scope) (Run.bind scope name x) := by
  rintro ⟨space, store, table, methods⟩ _
  dsimp only [Run.bind]
  split
  next => exact .refl allows _ _
  next =>
    refine ⟨?_, rfl, rfl, allows.write _ _ _⟩
    exact (Space.Grows.newVariable space name .any none).trans (.addVariable _ scope _)

theorem keeping_bindAll (scope : ScopeId) (pairs : List (String × Value)) :
    Keeping S bodies (· = scope) (bindAll scope pairs) := by
  induction pairs with
  | nil => exact keeping_pure allows ()
  | cons pair pairs ih => exact (keeping_bind allows scope pair.1 pair.2).bind allows fun _ => ih

/-- So may what runs in the scope of a method. -/
theorem keepingAll_enter {f : Function} {scope : ScopeId} {params : List String} {args : List Value}
    {g : ScopeId × Unit → Run α} (inside : ∀ frame, Keeping S bodies (· = frame) (g (frame, ()))) :
    KeepingAll S bodies (plain.enter f scope params args >>= g) := by
  simp only [bind_assoc, pure_bind]
  exact keepingAll_child fun frame => (keeping_bindAll allows frame _).bind allows fun _ => inside frame

theorem keeping_write (v : Variable) (x : Value) : Keeping S bodies opened (write v x) :=
  fun _ _ => ⟨.refl _ _, rfl, rfl, allows.write _ _ _⟩

theorem keeping_variableOf (scope : ScopeId) (name : String) :
    Keeping S bodies opened (variableOf scope name) := by
  refine (keeping_get allows).bind allows fun w => ?_
  split
  · exact keeping_pure allows _
  · exact keeping_throw allows _

theorem keeping_functionOf (scope : ScopeId) (name : String) (arity : Nat) :
    Keeping S bodies opened (functionOf scope name arity) := by
  refine (keeping_get allows).bind allows fun w => ?_
  split
  · exact keeping_pure allows _
  · exact keeping_throw allows _

theorem keeping_read (v : Variable) : Keeping S bodies opened (read v) :=
  (keeping_get allows).bind allows fun _ => keeping_pure allows _

theorem keeping_fieldOf (receiver : Value) (name : String) : Keeping S bodies opened (fieldOf receiver name) :=
  (keeping_get allows).bind allows fun _ => keeping_ofExcept allows _

theorem keeping_methodOf (receiver : Value) (name : String) (arity : Nat) :
    Keeping S bodies opened (methodOf receiver name arity) := by
  unfold methodOf
  split
  · refine (keeping_get allows).bind allows fun w => ?_
    split
    · exact keeping_pure allows _
    · exact keeping_throw allows _
  · exact keeping_throw allows _

/-- The native functions of a world keep what they are assumed to. -/
theorem keeping_native {n : Nat} {f : Native} (found : bodies.get? n = some (.native f)) (args : List Value) :
    Keeping S bodies opened (native f args) := by
  rintro ⟨space, store, table, methods⟩ _
  have allowed := allows.native n f found args store
  dsimp only [native]
  cases called : f args store with
  | ok v store' =>
    rw [called] at allowed
    exact ⟨.refl _ _, rfl, rfl, allowed⟩
  | error fault store' =>
    rw [called] at allowed
    exact ⟨.refl _ _, rfl, rfl, allowed⟩

end

/-! ## Expressions and statements -/

mutual
theorem evaluate_keeps (allows : Store.Allows S bodies) (fuel calls : Nat) (scope : ScopeId) (e : Expr) :
    KeepingAll S bodies (evaluate fuel calls scope e) := by
  cases fuel with
  | zero =>
    unfold evaluate Conduct.evaluate
    exact keeping_throw allows _
  | succ fuel =>
    unfold evaluate Conduct.evaluate
    cases e with
    | literal => exact keeping_pure allows _
    | group inner => exact evaluate_keeps allows fuel calls scope inner
    | binary op left right =>
      have first := evaluate_keeps allows fuel calls scope left
      have second := evaluate_keeps allows fuel calls scope right
      dsimp only
      split
      · refine first.bind allows fun l => (keeping_ofExcept allows _).bind allows fun l => ?_
        split
        · exact keeping_pure allows _
        · exact second.bind allows fun r => (keeping_ofExcept allows _).bind allows fun _ => keeping_pure allows _
      · exact first.bind allows fun l => second.bind allows fun r => keeping_ofExcept allows _
    | ref name => exact (keeping_variableOf allows scope name).bind allows fun v => keeping_read allows v
    | field receiver name =>
      refine (evaluate_keeps allows fuel calls scope receiver).bind allows fun r => ?_
      exact (keeping_fieldOf allows r name).bind allows fun v => keeping_read allows v
    | call name args =>
      refine (evaluateAll_keeps allows fuel calls scope args).bind allows fun xs => ?_
      exact (keeping_functionOf allows scope name xs.length).bind allows fun f => invoke_keeps allows fuel calls f xs
    | send receiver name args =>
      refine (evaluateAll_keeps allows fuel calls scope args).bind allows fun xs => ?_
      refine (evaluate_keeps allows fuel calls scope receiver).bind allows fun r => ?_
      exact (keeping_methodOf allows r name xs.length).bind allows fun f => invoke_keeps allows fuel calls f _
    | unknown => exact keeping_throw allows _
termination_by fuel
decreasing_by all_goals omega

theorem evaluateAll_keeps (allows : Store.Allows S bodies) (fuel calls : Nat) (scope : ScopeId)
    (es : List Expr) : KeepingAll S bodies (evaluateAll fuel calls scope es) := by
  cases fuel with
  | zero =>
    unfold evaluateAll Conduct.evaluateAll
    exact keeping_throw allows _
  | succ fuel =>
    unfold evaluateAll Conduct.evaluateAll
    cases es with
    | nil => exact keeping_pure allows _
    | cons e es =>
      refine (evaluate_keeps allows fuel calls scope e).bind allows fun x => ?_
      exact (evaluateAll_keeps allows fuel calls scope es).bind allows fun xs => keeping_pure allows _
termination_by fuel
decreasing_by all_goals omega

theorem invoke_keeps (allows : Store.Allows S bodies) (fuel calls : Nat) (f : Function) (args : List Value) :
    KeepingAll S bodies (invoke fuel calls f args) := by
  cases fuel with
  | zero =>
    unfold invoke Conduct.invoke
    exact keeping_throw allows _
  | succ fuel =>
    unfold invoke Conduct.invoke
    refine keeping_bodies fun w same => ?_
    rw [same]
    cases found : bodies.get? f.number with
    | none => exact keeping_pure allows _
    | some body =>
      cases body with
      | native g => exact keeping_native allows found args
      | method params statements scope =>
        cases calls with
        | zero => exact keeping_throw allows _
        | succ calls =>
          refine keepingAll_enter allows fun frame => ?_
          exact (executeAll_keeps allows fuel calls frame statements).bind allows fun _ => keeping_pure allows _
termination_by fuel
decreasing_by all_goals omega

theorem execute_keeps (allows : Store.Allows S bodies) (fuel calls : Nat) (scope : ScopeId) (s : Stmt) :
    Keeping S bodies (fun i => s.isDeclaration ∧ i = scope) (execute fuel calls scope s) := by
  cases fuel with
  | zero =>
    unfold execute Conduct.execute
    exact keeping_throw allows _
  | succ fuel =>
    unfold execute Conduct.execute
    cases s with
    | expression e =>
      exact (evaluate_keeps allows fuel calls scope e).open.bind allows fun _ => keeping_pure allows _
    | declaration name typeName initializer =>
      have bound : ∀ x, Keeping S bodies (fun i => true ∧ i = scope)
          (do Run.bind scope name x; return (none : Option Value)) := by
        intro x
        refine ((keeping_bind allows scope name x).mono fun i same => ⟨rfl, same⟩).bind allows fun _ => ?_
        exact keeping_pure allows _
      cases initializer with
      | none => exact (keeping_pure allows Value.nil).bind allows bound
      | some e => exact (evaluate_keeps allows fuel calls scope e).open.bind allows bound
    | assignment target value =>
      have given := evaluate_keeps allows fuel calls scope value
      cases target with
      | ref name =>
        refine (keeping_variableOf allows scope name).bind allows fun v => given.open.bind allows fun x => ?_
        exact (keeping_write allows v x).bind allows fun _ => keeping_pure allows _
      | field receiver name =>
        refine (evaluate_keeps allows fuel calls scope receiver).open.bind allows fun r => ?_
        refine given.open.bind allows fun x => (keeping_fieldOf allows r name).bind allows fun v => ?_
        exact (keeping_write allows v x).bind allows fun _ => keeping_pure allows _
      | _ => exact keeping_throw allows _
    | conditional condition thenPart elsePart =>
      refine (evaluate_keeps allows fuel calls scope condition).open.bind allows fun c => ?_
      refine (keeping_ofExcept allows _).bind allows fun c => ?_
      refine KeepingAll.open (keepingAll_child fun inner => ?_)
      cases c with
      | true => exact executeAll_keeps allows fuel calls inner thenPart
      | false => exact executeAll_keeps allows fuel calls inner elsePart
    | forEach name iterable body =>
      refine (evaluate_keeps allows fuel calls scope iterable).open.bind allows fun x => ?_
      split
      next items found => exact (forEach_keeps allows fuel calls scope name body items).open
      next => exact keeping_throw allows _
    | whileLoop condition body => exact (whileLoop_keeps allows fuel calls scope condition body).open
    | ret value =>
      exact (evaluate_keeps allows fuel calls scope value).open.bind allows fun _ => keeping_pure allows _
    | unknown => exact keeping_throw allows _
termination_by fuel
decreasing_by all_goals omega

theorem executeAll_keeps (allows : Store.Allows S bodies) (fuel calls : Nat) (scope : ScopeId)
    (ss : List Stmt) : Keeping S bodies (· = scope) (executeAll fuel calls scope ss) := by
  cases fuel with
  | zero =>
    unfold executeAll Conduct.executeAll
    exact keeping_throw allows _
  | succ fuel =>
    unfold executeAll Conduct.executeAll
    cases ss with
    | nil => exact keeping_pure allows _
    | cons s ss =>
      have first := (execute_keeps allows fuel calls scope s).mono fun _ opened => opened.2
      refine first.bind allows fun outcome => ?_
      cases outcome with
      | some x => exact keeping_pure allows _
      | none => exact executeAll_keeps allows fuel calls scope ss
termination_by fuel
decreasing_by all_goals omega

theorem forEach_keeps (allows : Store.Allows S bodies) (fuel calls : Nat) (scope : ScopeId) (name : String)
    (body : List Stmt) (items : Items) : KeepingAll S bodies (forEach fuel calls scope name body items) := by
  cases fuel with
  | zero =>
    unfold forEach Conduct.forEach
    exact keeping_throw allows _
  | succ fuel =>
    unfold forEach Conduct.forEach
    split
    next => exact keeping_pure allows _
    next item items next =>
      refine keepingAll_child fun inner => ?_
      refine (keeping_bind allows inner name item).bind allows fun _ => ?_
      refine (executeAll_keeps allows fuel calls inner body).bind allows fun outcome => ?_
      cases outcome with
      | some x => exact keeping_pure allows _
      | none => exact (forEach_keeps allows fuel calls scope name body items).open
termination_by fuel
decreasing_by all_goals omega

theorem whileLoop_keeps (allows : Store.Allows S bodies) (fuel calls : Nat) (scope : ScopeId)
    (condition : Expr) (body : List Stmt) :
    KeepingAll S bodies (whileLoop fuel calls scope condition body) := by
  cases fuel with
  | zero =>
    unfold whileLoop Conduct.whileLoop
    exact keeping_throw allows _
  | succ fuel =>
    unfold whileLoop Conduct.whileLoop
    refine (evaluate_keeps allows fuel calls scope condition).bind allows fun c => ?_
    refine (keeping_ofExcept allows _).bind allows fun c => ?_
    split
    · refine keepingAll_child fun inner => ?_
      refine (executeAll_keeps allows fuel calls inner body).bind allows fun outcome => ?_
      cases outcome with
      | some x => exact keeping_pure allows _
      | none => exact (whileLoop_keeps allows fuel calls scope condition body).open
    · exact keeping_pure allows _
termination_by fuel
decreasing_by all_goals omega
end

end Run

end Primer
