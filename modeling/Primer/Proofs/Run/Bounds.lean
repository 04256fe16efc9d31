import Primer.Proofs.Run.Declarations

/-!
# Bounds of a run

A run has two bounds, its fuel and the depth to which calls may nest. Neither belongs to the program: all that
a bound can do is cut a run off.

**The laws.** A run that was not cut off ends in the same way, in the same world, with wider bounds
(`program_extends`). So all bounds that do not cut off a program give it one and the same run
(`program_eq_of_not_cut`), and how a run ends that had fuel enough is how it ends with more
(`runSource_eq_of_le`).
-/

namespace Primer

/-- That a run stopped at a bound: it has no fuel left, or calls are nested too deep although so many more could
be allowed. -/
def Stop.Cut (deeper : Nat) : Stop → Prop
  | .outOfFuel => True
  | .fault f => f = .stackOverflow ∧ 0 < deeper

namespace Run

variable {α β : Type} {deeper : Nat}

/-- That a step was cut off. -/
def Cut (deeper : Nat) : EStateM.Result Stop World α → Prop
  | .ok _ _ => False
  | .error stop _ => stop.Cut deeper

/-- That a step with wider bounds ends as one does that is not cut off. -/
def Extends (deeper : Nat) (x x' : Run α) : Prop :=
  ∀ w, ¬ Cut deeper (x w) → x' w = x w

theorem Extends.refl (x : Run α) : Extends deeper x x :=
  fun _ _ => rfl

theorem extends_outOfFuel (x : Run α) : Extends deeper (throw .outOfFuel) x :=
  fun _ ends => absurd trivial ends

theorem extends_stackOverflow {x : Run α} (nested : 0 < deeper) :
    Extends deeper (throw (.fault .stackOverflow)) x :=
  fun _ ends => absurd ⟨rfl, nested⟩ ends

theorem Extends.bind {x x' : Run α} {f f' : α → Run β} (first : Extends deeper x x')
    (others : ∀ a, Extends deeper (f a) (f' a)) : Extends deeper (x >>= f) (x' >>= f') := by
  intro w
  change ¬ Cut deeper (EStateM.bind x f w) → EStateM.bind x' f' w = EStateM.bind x f w
  rw [EStateM.bind, EStateM.bind]
  have same := first w
  cases ran : x w with
  | ok a w' =>
    rw [ran] at same
    rw [same id]
    exact others a w'
  | error stop w' =>
    intro ends
    rw [ran] at same
    rw [same ends]

/-- Two steps of which the first is the same. -/
theorem Extends.after {x : Run α} {f f' : α → Run β} (others : ∀ a, Extends deeper (f a) (f' a)) :
    Extends deeper (x >>= f) (x >>= f') :=
  (Extends.refl x).bind others

/-- Two steps of which the second is the same. -/
theorem Extends.before {x x' : Run α} (first : Extends deeper x x') (f : α → Run β) :
    Extends deeper (x >>= f) (x' >>= f) :=
  first.bind fun a => .refl (f a)

/-! ## Expressions and statements -/

mutual
theorem evaluate_extends (more deeper fuel calls : Nat) (scope : ScopeId) (e : Expr) :
    Extends deeper (evaluate fuel calls scope e) (evaluate (fuel + more) (calls + deeper) scope e) := by
  cases fuel with
  | zero =>
    unfold evaluate
    rw [Conduct.evaluate]
    exact extends_outOfFuel _
  | succ fuel =>
    rw [Nat.add_right_comm]
    unfold evaluate Conduct.evaluate
    cases e with
    | group inner => exact evaluate_extends more deeper fuel calls scope inner
    | binary op left right =>
      have first := evaluate_extends more deeper fuel calls scope left
      have second := evaluate_extends more deeper fuel calls scope right
      dsimp only
      cases op.decisive? with
      | some decisive =>
        refine first.bind fun l => .after fun l => ?_
        split
        · exact .refl _
        · exact second.before _
      | none => exact first.bind fun l => second.before _
    | field receiver name => exact (evaluate_extends more deeper fuel calls scope receiver).before _
    | call name args =>
      refine (evaluateAll_extends more deeper fuel calls scope args).bind fun xs => .after fun f => ?_
      exact invoke_extends more deeper fuel calls f xs
    | send receiver name args =>
      refine (evaluateAll_extends more deeper fuel calls scope args).bind fun xs => ?_
      refine (evaluate_extends more deeper fuel calls scope receiver).bind fun r => .after fun f => ?_
      exact invoke_extends more deeper fuel calls f (r :: xs)
    | literal | ref | unknown => exact .refl _
termination_by fuel
decreasing_by all_goals omega

theorem evaluateAll_extends (more deeper fuel calls : Nat) (scope : ScopeId) (es : List Expr) :
    Extends deeper (evaluateAll fuel calls scope es) (evaluateAll (fuel + more) (calls + deeper) scope es) := by
  cases fuel with
  | zero =>
    unfold evaluateAll
    rw [Conduct.evaluateAll]
    exact extends_outOfFuel _
  | succ fuel =>
    rw [Nat.add_right_comm]
    unfold evaluateAll Conduct.evaluateAll
    cases es with
    | nil => exact .refl _
    | cons e es =>
      refine (evaluate_extends more deeper fuel calls scope e).bind fun x => ?_
      exact (evaluateAll_extends more deeper fuel calls scope es).before _
termination_by fuel
decreasing_by all_goals omega

theorem invoke_extends (more deeper fuel calls : Nat) (f : Function) (args : List Value) :
    Extends deeper (invoke fuel calls f args) (invoke (fuel + more) (calls + deeper) f args) := by
  cases fuel with
  | zero =>
    unfold invoke
    rw [Conduct.invoke]
    exact extends_outOfFuel _
  | succ fuel =>
    rw [Nat.add_right_comm]
    unfold invoke Conduct.invoke
    refine .after fun w => ?_
    cases w.bodies.get? f.number with
    | none => exact .refl _
    | some body =>
      cases body with
      | native g => exact .refl _
      | method params statements scope =>
        cases calls with
        | zero =>
          -- Either calls may not nest any deeper, or it was for this that the run was cut off.
          cases deeper with
          | zero => exact .refl _
          | succ deeper => exact extends_stackOverflow (Nat.succ_pos deeper)
        | succ calls =>
          rw [Nat.add_right_comm]
          exact .after fun entered => (executeAll_extends more deeper fuel calls entered.1 statements).before _
termination_by fuel
decreasing_by all_goals omega

theorem execute_extends (more deeper fuel calls : Nat) (scope : ScopeId) (s : Stmt) :
    Extends deeper (execute fuel calls scope s) (execute (fuel + more) (calls + deeper) scope s) := by
  cases fuel with
  | zero =>
    unfold execute
    rw [Conduct.execute]
    exact extends_outOfFuel _
  | succ fuel =>
    rw [Nat.add_right_comm]
    unfold execute Conduct.execute
    cases s with
    | expression e => exact (evaluate_extends more deeper fuel calls scope e).before _
    | declaration name typeName initializer =>
      cases initializer with
      | none => exact .refl _
      | some e => exact (evaluate_extends more deeper fuel calls scope e).before _
    | assignment target value =>
      have given := evaluate_extends more deeper fuel calls scope value
      cases target with
      | ref name => exact .after fun v => given.before _
      | field receiver name =>
        exact (evaluate_extends more deeper fuel calls scope receiver).bind fun r => given.before _
      | _ => exact .refl _
    | conditional condition thenPart elsePart =>
      refine (evaluate_extends more deeper fuel calls scope condition).bind fun x => ?_
      refine .after fun c => .after fun inner => ?_
      cases c with
      | true => exact executeAll_extends more deeper fuel calls inner thenPart
      | false => exact executeAll_extends more deeper fuel calls inner elsePart
    | forEach name iterable body =>
      refine (evaluate_extends more deeper fuel calls scope iterable).bind fun x => ?_
      cases Items.ofValue? x with
      | some items => exact forEach_extends more deeper fuel calls scope name body items
      | none => exact .refl _
    | whileLoop condition body => exact whileLoop_extends more deeper fuel calls scope condition body
    | ret value => exact (evaluate_extends more deeper fuel calls scope value).before _
    | unknown => exact .refl _
termination_by fuel
decreasing_by all_goals omega

theorem executeAll_extends (more deeper fuel calls : Nat) (scope : ScopeId) (ss : List Stmt) :
    Extends deeper (executeAll fuel calls scope ss) (executeAll (fuel + more) (calls + deeper) scope ss) := by
  cases fuel with
  | zero =>
    unfold executeAll
    rw [Conduct.executeAll]
    exact extends_outOfFuel _
  | succ fuel =>
    rw [Nat.add_right_comm]
    unfold executeAll Conduct.executeAll
    cases ss with
    | nil => exact .refl _
    | cons s ss =>
      refine (execute_extends more deeper fuel calls scope s).bind fun outcome => ?_
      cases outcome with
      | some x => exact .refl _
      | none => exact executeAll_extends more deeper fuel calls scope ss
termination_by fuel
decreasing_by all_goals omega

theorem forEach_extends (more deeper fuel calls : Nat) (scope : ScopeId) (name : String) (body : List Stmt)
    (items : Items) :
    Extends deeper (forEach fuel calls scope name body items)
      (forEach (fuel + more) (calls + deeper) scope name body items) := by
  cases fuel with
  | zero =>
    unfold forEach
    rw [Conduct.forEach]
    exact extends_outOfFuel _
  | succ fuel =>
    rw [Nat.add_right_comm]
    unfold forEach Conduct.forEach
    cases items.next? with
    | none => exact .refl _
    | some next =>
      obtain ⟨item, items⟩ := next
      refine .after fun inner => .after fun _ => ?_
      refine (executeAll_extends more deeper fuel calls inner body).bind fun outcome => ?_
      cases outcome with
      | some x => exact .refl _
      | none => exact forEach_extends more deeper fuel calls scope name body items
termination_by fuel
decreasing_by all_goals omega

theorem whileLoop_extends (more deeper fuel calls : Nat) (scope : ScopeId) (condition : Expr) (body : List Stmt) :
    Extends deeper (whileLoop fuel calls scope condition body)
      (whileLoop (fuel + more) (calls + deeper) scope condition body) := by
  cases fuel with
  | zero =>
    unfold whileLoop
    rw [Conduct.whileLoop]
    exact extends_outOfFuel _
  | succ fuel =>
    rw [Nat.add_right_comm]
    unfold whileLoop Conduct.whileLoop
    refine (evaluate_extends more deeper fuel calls scope condition).bind fun x => .after fun c => ?_
    cases c with
    | true =>
      refine .after fun inner => ?_
      refine (executeAll_extends more deeper fuel calls inner body).bind fun outcome => ?_
      cases outcome with
      | some x => exact .refl _
      | none => exact whileLoop_extends more deeper fuel calls scope condition body
    | false => exact .refl _
termination_by fuel
decreasing_by all_goals omega
end

/-! ## Programs -/

theorem declareFields_extends (more deeper fuel calls : Nat) (scope : ScopeId) (fs : List Field) :
    Extends deeper (declareFields fuel calls scope fs)
      (declareFields (fuel + more) (calls + deeper) scope fs) := by
  induction fs with
  | nil => exact .refl _
  | cons f fs ih =>
    refine Extends.bind ?_ fun _ => ih
    unfold Conduct.declareField Conduct.declare
    cases f.initializer with
    | none => exact .refl _
    | some e => exact (evaluate_extends more deeper fuel calls scope e).before _

/-- A program that was not cut off ends in the same way with wider bounds. -/
theorem program_extends (more deeper fuel calls : Nat) (outer : ScopeId) (s : Source) :
    Extends deeper (program fuel calls outer s) (program (fuel + more) (calls + deeper) outer s) := by
  refine Extends.bind ?_ fun scope => .after fun main => ?_
  · exact .after fun scope => (declareFields_extends more deeper fuel calls scope s.fields).before _
  · exact invoke_extends more deeper fuel calls main []

/-- All bounds that do not cut a program off give it the same run. -/
theorem program_eq_of_not_cut {fuel fuel' calls calls' : Nat} {outer : ScopeId} {s : Source} {w : World}
    (ends : ¬ Cut 1 (program fuel calls outer s w)) (ends' : ¬ Cut 1 (program fuel' calls' outer s w)) :
    program fuel calls outer s w = program fuel' calls' outer s w := by
  have narrow : ∀ {result : EStateM.Result Stop World Value}, ¬ Cut 1 result → ∀ deeper, ¬ Cut deeper result := by
    rintro (_ | ⟨_ | _⟩) ends deeper cut
    · exact cut
    · exact ends ⟨cut.1, Nat.one_pos⟩
    · exact ends trivial
  -- Both runs are those with the fuel and the nesting of the two together.
  have first := program_extends fuel' calls' fuel calls outer s w (narrow ends _)
  have second := program_extends fuel calls fuel' calls' outer s w (narrow ends' _)
  rw [← first, ← second, Nat.add_comm fuel, Nat.add_comm calls]

/-- How a run ends that had fuel enough is how it ends with more. -/
theorem runSource_eq_of_le {fuel fuel' calls : Nat} {outer : ScopeId} {s : Source} {w : World} (le : fuel ≤ fuel')
    (ends : ∀ w', runSource fuel outer s calls w ≠ .error .outOfFuel w') :
    runSource fuel' outer s calls w = runSource fuel outer s calls w := by
  obtain ⟨more, rfl⟩ := Nat.exists_eq_add_of_le le
  rw [runSource_eq_program, runSource_eq_program]
  apply program_extends more 0 fuel calls outer s w
  cases ran : program fuel calls outer s w with
  | ok v w' => exact id
  | error stop w' =>
    cases stop with
    | outOfFuel =>
      rw [← runSource_eq_program] at ran
      exact absurd ran (ends w')
    | fault f => exact fun cut => Nat.lt_irrefl 0 cut.2

end Run

end Primer
