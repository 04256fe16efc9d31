import Primer.Run.Program

/-!
# Two ways to go through a program

The order of the steps of a run is laid down once, for any way to take them. So what two ways have in common step by
step they have in common on the way through a whole program.

**The law** (`Alike.source`): a relation between what two conducts do that holds of each of their steps, and goes
from steps to sequences of steps, holds of all code and of programs. A law about one conduct is the case in which
the other one does not matter.
-/

namespace Primer

variable {κ κ' ε ε' σ σ' : Type}

/-! ## Steps one after the other -/

namespace Conduct

variable {α β : Type} {x : EStateM ε σ α} {s s' : σ}

theorem bind_of_eq_ok {a : α} (ran : x s = .ok a s') (g : α → EStateM ε σ β) : (x >>= g) s = g a s' := by
  change EStateM.bind x g s = g a s'
  rw [EStateM.bind, ran]

theorem bind_of_eq_error {stop : ε} (ran : x s = .error stop s') (g : α → EStateM ε σ β) :
    (x >>= g) s = .error stop s' := by
  change EStateM.bind x g s = .error stop s'
  rw [EStateM.bind, ran]

end Conduct

/-! ## Conducts that are alike -/

/-- That two conducts take the steps of code alike, with regard to a relation between what they do. What they know of
the places where code stands need not agree. -/
structure Conduct.Alike (R : ∀ ⦃α : Type⦄, EStateM ε σ α → EStateM ε' σ' α → Prop) (c : Conduct κ ε σ)
    (c' : Conduct κ' ε' σ') : Prop where
  pure : ∀ {α : Type} (a : α), R (pure a) (pure a)
  next : ∀ {α β : Type} {x : EStateM ε σ α} {x' : EStateM ε' σ' α} {g : α → EStateM ε σ β} {g' : α → EStateM ε' σ' β},
    R x x' → (∀ a, R (g a) (g' a)) → R (x >>= g) (x' >>= g')
  throw : ∀ {α : Type} (stop : Stop), R (c.step (throw stop : Run α)) (c'.step (throw stop))
  check : ∀ {α : Type} (result : Except Fault α), R (c.step (Run.ofExcept result)) (c'.step (Run.ofExcept result))
  get : R (c.step get) (c'.step get)
  child : ∀ scope, R (c.step (Run.child scope)) (c'.step (Run.child scope))
  read : ∀ v, R (c.step (Run.read v)) (c'.step (Run.read v))
  write : ∀ v x, R (c.step (Run.write v x)) (c'.step (Run.write v x))
  fieldOf : ∀ receiver name, R (c.step (Run.fieldOf receiver name)) (c'.step (Run.fieldOf receiver name))
  methodOf : ∀ receiver name arity,
    R (c.step (Run.methodOf receiver name arity)) (c'.step (Run.methodOf receiver name arity))
  main : ∀ scope, R (c.step (Run.functionOf scope "main" 0)) (c'.step (Run.functionOf scope "main" 0))
  variableOf : ∀ place place' scope name binding,
    R (c.variableOf place scope name binding) (c'.variableOf place' scope name binding)
  functionOf : ∀ place place' scope name arity callee,
    R (c.functionOf place scope name arity callee) (c'.functionOf place' scope name arity callee)
  combine : ∀ op left right, R (c.combine op left right) (c'.combine op left right)
  native : ∀ f args, R (c.native f args) (c'.native f args)
  bind : ∀ place place' scope name x binding,
    R (c.bind place scope name x binding) (c'.bind place' scope name x binding)
  bindItem : ∀ place place' scope name x, R (c.bindItem place scope name x) (c'.bindItem place' scope name x)
  enter : ∀ {α : Type} f scope params args {g : ScopeId × κ → EStateM ε σ α} {g' : ScopeId × κ' → EStateM ε' σ' α},
    (∀ frame place place', R (g (frame, place)) (g' (frame, place'))) →
      R (c.enter f scope params args >>= g) (c'.enter f scope params args >>= g')

namespace Conduct.Alike

variable {R : ∀ ⦃α : Type⦄, EStateM ε σ α → EStateM ε' σ' α → Prop} {c : Conduct κ ε σ} {c' : Conduct κ' ε' σ'}

/-! ## Code -/

mutual
theorem evaluate (alike : Alike R c c') (fuel calls : Nat) (place : κ) (place' : κ') (scope : ScopeId) (e : Expr) :
    R (c.evaluate fuel calls place scope e) (c'.evaluate fuel calls place' scope e) := by
  cases fuel with
  | zero =>
    unfold Conduct.evaluate
    exact alike.throw _
  | succ fuel =>
    unfold Conduct.evaluate
    cases e with
    | literal => exact alike.pure _
    | group inner => exact evaluate alike fuel calls place place' scope inner
    | binary op left right =>
      have first := evaluate alike fuel calls place place' scope left
      have second := evaluate alike fuel calls place place' scope right
      dsimp only
      cases op.decisive? with
      | some decisive =>
        refine alike.next first fun l => alike.next (alike.check _) fun l => ?_
        by_cases same : l = decisive
        · rw [if_pos same, if_pos same]
          exact alike.pure _
        · rw [if_neg same, if_neg same]
          exact alike.next second fun r => alike.next (alike.check _) fun r => alike.pure _
      | none => exact alike.next first fun l => alike.next second fun r => alike.combine op l r
    | ref name => exact alike.next (alike.variableOf ..) fun v => alike.read v
    | field receiver name =>
      refine alike.next (evaluate alike fuel calls place place' scope receiver) fun r => ?_
      exact alike.next (alike.fieldOf r name) fun v => alike.read v
    | call name args =>
      refine alike.next (evaluateAll alike fuel calls place place' scope args) fun xs => ?_
      exact alike.next (alike.functionOf ..) fun f => invoke alike fuel calls f xs
    | send receiver name args =>
      refine alike.next (evaluateAll alike fuel calls place place' scope args) fun xs => ?_
      refine alike.next (evaluate alike fuel calls place place' scope receiver) fun r => ?_
      exact alike.next (alike.methodOf r name xs.length) fun f => invoke alike fuel calls f (r :: xs)
    | unknown => exact alike.throw _
termination_by fuel
decreasing_by all_goals omega

theorem evaluateAll (alike : Alike R c c') (fuel calls : Nat) (place : κ) (place' : κ') (scope : ScopeId)
    (es : List Expr) : R (c.evaluateAll fuel calls place scope es) (c'.evaluateAll fuel calls place' scope es) := by
  cases fuel with
  | zero =>
    unfold Conduct.evaluateAll
    exact alike.throw _
  | succ fuel =>
    unfold Conduct.evaluateAll
    cases es with
    | nil => exact alike.pure _
    | cons e es =>
      refine alike.next (evaluate alike fuel calls place place' scope e) fun x => ?_
      exact alike.next (evaluateAll alike fuel calls place place' scope es) fun xs => alike.pure _
termination_by fuel
decreasing_by all_goals omega

theorem invoke (alike : Alike R c c') (fuel calls : Nat) (f : Function) (args : List Value) :
    R (c.invoke fuel calls f args) (c'.invoke fuel calls f args) := by
  cases fuel with
  | zero =>
    unfold Conduct.invoke
    exact alike.throw _
  | succ fuel =>
    unfold Conduct.invoke
    refine alike.next alike.get fun w => ?_
    cases w.bodies.get? f.number with
    | none => exact alike.pure _
    | some body =>
      cases body with
      | native g => exact alike.native g args
      | method params statements scope =>
        cases calls with
        | zero => exact alike.throw _
        | succ calls =>
          refine alike.enter f scope params args fun frame place place' => ?_
          exact alike.next (executeAll alike fuel calls place place' frame statements) fun _ => alike.pure _
termination_by fuel
decreasing_by all_goals omega

theorem execute (alike : Alike R c c') (fuel calls : Nat) (place : κ) (place' : κ') (scope : ScopeId) (s : Stmt) :
    R (c.execute fuel calls place scope s) (c'.execute fuel calls place' scope s) := by
  cases fuel with
  | zero =>
    unfold Conduct.execute
    exact alike.throw _
  | succ fuel =>
    unfold Conduct.execute
    cases s with
    | expression e => exact alike.next (evaluate alike fuel calls place place' scope e) fun _ => alike.pure _
    | declaration name typeName initializer =>
      cases initializer with
      | none => exact alike.next (alike.pure _) fun x => alike.next (alike.bind ..) fun _ => alike.pure _
      | some e =>
        refine alike.next (evaluate alike fuel calls place place' scope e) fun x => ?_
        exact alike.next (alike.bind ..) fun _ => alike.pure _
    | assignment target value =>
      have given := evaluate alike fuel calls place place' scope value
      cases target with
      | ref name =>
        refine alike.next (alike.variableOf ..) fun v => alike.next given fun x => ?_
        exact alike.next (alike.write v x) fun _ => alike.pure _
      | field receiver name =>
        refine alike.next (evaluate alike fuel calls place place' scope receiver) fun r => alike.next given fun x => ?_
        refine alike.next (alike.fieldOf r name) fun v => ?_
        exact alike.next (alike.write v x) fun _ => alike.pure _
      | _ => exact alike.throw _
    | conditional condition thenPart elsePart =>
      refine alike.next (evaluate alike fuel calls place place' scope condition) fun x => ?_
      refine alike.next (alike.check _) fun decided => alike.next (alike.child scope) fun inner => ?_
      cases decided with
      | true => exact executeAll alike fuel calls place place' inner thenPart
      | false => exact executeAll alike fuel calls _ _ inner elsePart
    | forEach name iterable body =>
      refine alike.next (evaluate alike fuel calls place place' scope iterable) fun x => ?_
      cases Items.ofValue? x with
      | some items => exact forEach alike fuel calls place place' scope name body items
      | none => exact alike.throw _
    | whileLoop condition body => exact whileLoop alike fuel calls place place' scope condition body
    | ret value => exact alike.next (evaluate alike fuel calls place place' scope value) fun _ => alike.pure _
    | unknown => exact alike.throw _
termination_by fuel
decreasing_by all_goals omega

theorem executeAll (alike : Alike R c c') (fuel calls : Nat) (place : κ) (place' : κ') (scope : ScopeId)
    (ss : List Stmt) : R (c.executeAll fuel calls place scope ss) (c'.executeAll fuel calls place' scope ss) := by
  cases fuel with
  | zero =>
    unfold Conduct.executeAll
    exact alike.throw _
  | succ fuel =>
    unfold Conduct.executeAll
    cases ss with
    | nil => exact alike.pure _
    | cons s ss =>
      refine alike.next (execute alike fuel calls place place' scope s) fun outcome => ?_
      cases outcome with
      | some x => exact alike.pure _
      | none => exact executeAll alike fuel calls _ _ scope ss
termination_by fuel
decreasing_by all_goals omega

theorem forEach (alike : Alike R c c') (fuel calls : Nat) (place : κ) (place' : κ') (scope : ScopeId) (name : String)
    (body : List Stmt) (items : Items) :
    R (c.forEach fuel calls place scope name body items) (c'.forEach fuel calls place' scope name body items) := by
  cases fuel with
  | zero =>
    unfold Conduct.forEach
    exact alike.throw _
  | succ fuel =>
    unfold Conduct.forEach
    cases items.next? with
    | none => exact alike.pure _
    | some next =>
      obtain ⟨item, items⟩ := next
      refine alike.next (alike.child scope) fun inner => alike.next (alike.bindItem ..) fun _ => ?_
      refine alike.next (executeAll alike fuel calls _ _ inner body) fun outcome => ?_
      cases outcome with
      | some x => exact alike.pure _
      | none => exact forEach alike fuel calls place place' scope name body items
termination_by fuel
decreasing_by all_goals omega

theorem whileLoop (alike : Alike R c c') (fuel calls : Nat) (place : κ) (place' : κ') (scope : ScopeId)
    (condition : Expr) (body : List Stmt) :
    R (c.whileLoop fuel calls place scope condition body) (c'.whileLoop fuel calls place' scope condition body) := by
  cases fuel with
  | zero =>
    unfold Conduct.whileLoop
    exact alike.throw _
  | succ fuel =>
    unfold Conduct.whileLoop
    refine alike.next (evaluate alike fuel calls place place' scope condition) fun x => ?_
    refine alike.next (alike.check _) fun decided => ?_
    cases decided with
    | true =>
      refine alike.next (alike.child scope) fun inner => ?_
      refine alike.next (executeAll alike fuel calls place place' inner body) fun outcome => ?_
      cases outcome with
      | some x => exact alike.pure _
      | none => exact whileLoop alike fuel calls place place' scope condition body
    | false => exact alike.pure _
termination_by fuel
decreasing_by all_goals omega
end

/-! ## Programs -/

theorem declareFields (alike : Alike R c c') (fuel calls : Nat) (scope : ScopeId) (fs : List Field) :
    R (c.declareFields fuel calls scope fs) (c'.declareFields fuel calls scope fs) := by
  induction fs with
  | nil => exact alike.pure _
  | cons f fs ih =>
    refine alike.next ?_ fun _ => ih
    unfold Conduct.declareField Conduct.declare
    cases f.initializer with
    | none => exact alike.next (alike.pure _) fun x => alike.bind ..
    | some e => exact alike.next (evaluate alike fuel calls _ _ scope e) fun x => alike.bind ..

theorem declareMethods (alike : Alike R c c') {scope : ScopeId}
    (declared : ∀ m, R (c.declareMethod scope m) (c'.declareMethod scope m)) (ms : List Method) :
    R (c.declareMethods scope ms) (c'.declareMethods scope ms) := by
  induction ms with
  | nil => exact alike.pure _
  | cons m ms ih => exact alike.next (declared m) fun _ => ih

/-- Conducts that take each step alike, and declare methods alike, go through programs alike. -/
theorem source (alike : Alike R c c') {scope : ScopeId}
    (declared : ∀ m, R (c.declareMethod scope m) (c'.declareMethod scope m)) (fuel calls : Nat) (s : Source) :
    R (c.source fuel calls scope s) (c'.source fuel calls scope s) := by
  refine alike.next (declareFields alike fuel calls scope s.fields) fun _ => ?_
  refine alike.next (declareMethods alike declared s.methods) fun _ => ?_
  exact alike.next (alike.main scope) fun main => invoke alike fuel calls main []

end Conduct.Alike

end Primer
