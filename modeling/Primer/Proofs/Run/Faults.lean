import Primer.CommandLine.Program
import Primer.Proofs.Run.Invariant
import Primer.Proofs.Run.Watch
import Primer.Proofs.Tree.Fresh

/-!
# The faults that end a run

Most faults belong to a family. Those that do not are no matter of the program, but one: an integer may have
become too long to be written.

**The law** (`Watch.program_regular`): over the root scope a run of a program that was read, whether or not it was
checked since, stops with a fault that belongs to a family, or at a moment when an integer was to be turned to text
that is too long for it. In particular every phrase and every operator is known, and no value of a host is ever met.

All that is to be known about the world is that its variables hold plain values, and that its functions print or are
methods of fresh code (`World.Stocked`). Every step keeps it so. A run does not look at slots, so code counts as fresh
if it is so with all slots empty.
-/

namespace Primer

/-- That at a moment an integer was to be turned to text that is too long for it. -/
def Moment.WritesTooLong (moment : Moment) : Prop :=
  ∃ n : Int, moment.Writes (.int n) ∧ Nat.pow 10 Numeral.digitLimit ≤ n.natAbs

/-! ## Operations -/

namespace Value

variable {op : Operator} {l r v : Value} {f : Fault}

theorem isPlain_of_arithmetic (made : arithmetic op l r = .ok v) : v.IsPlain := by
  unfold arithmetic at made
  split at made
  next =>
    unfold join at made
    split at made <;> cases made
    trivial
  next =>
    split at made
    next =>
      split at made
      next => cases made
      next =>
        split at made
        next =>
          obtain ⟨n, -, rfl⟩ := Except.map_eq_ok_iff.mp made
          trivial
        next => cases made
    next =>
      split at made
      next => cases made
      next =>
        split at made
        next =>
          obtain ⟨d, -, rfl⟩ := Except.map_eq_ok_iff.mp made
          trivial
        next => cases made
    next => cases made

/-- What an operator makes is never a value of a host. -/
theorem isPlain_of_combine (made : combine op l r = .ok v) : v.IsPlain := by
  cases op with
  | eq | ne =>
    cases made
    trivial
  | lt | le | gt | ge =>
    obtain ⟨o, -, rfl⟩ := Except.map_eq_ok_iff.mp made
    trivial
  | _ => exact isPlain_of_arithmetic made

theorem family?_of_order (failed : l.order r = .error f) : f.family?.isSome := by
  unfold order at failed
  split at failed
  case h_6 =>
    split at failed <;> cases failed <;> rfl
  all_goals cases failed

/-- Two values that cannot be joined are a string and an integer that is too long. -/
theorem writesTooLong_of_join (left : l.IsPlain) (right : r.IsPlain) (oneIsStr : (l.isStr || r.isStr) = true)
    (failed : join l r = .error f) : Moment.WritesTooLong (.combining .add l r) := by
  unfold join at failed
  split at failed
  next => cases failed
  next textless =>
    cases isLeft : l.display? with
    | none =>
      obtain ⟨n, rfl, long⟩ := left.eq_int_of_display?_eq_none isLeft
      cases r with
      | str s => exact ⟨n, .before _ s, long⟩
      | _ => cases oneIsStr
    | some a =>
      cases isRight : r.display? with
      | some b => exact absurd isRight (textless a b isLeft)
      | none =>
        obtain ⟨n, rfl, long⟩ := right.eq_int_of_display?_eq_none isRight
        cases l with
        | str s => exact ⟨n, .behind _ s, long⟩
        | _ => cases oneIsStr

theorem fault_of_arithmetic (isArithmetic : op ∈ [.add, .sub, .mul, .div]) (left : l.IsPlain) (right : r.IsPlain)
    (failed : arithmetic op l r = .error f) :
    f.family?.isSome ∨ f = .unwritableInteger ∧ Moment.WritesTooLong (.combining op l r) := by
  have known : (integerOperation? op).isSome ∧ (decimalOperation? op).isSome := by
    simp only [List.mem_cons, List.not_mem_nil, or_false] at isArithmetic
    rcases isArithmetic with rfl | rfl | rfl | rfl <;> exact ⟨rfl, rfl⟩
  unfold arithmetic at failed
  split at failed
  next joins =>
    obtain ⟨isAdd, oneIsStr⟩ := Bool.and_eq_true_iff.mp joins
    cases of_decide_eq_true isAdd
    exact .inr ⟨eq_unwritableInteger_of_join failed, writesTooLong_of_join left right oneIsStr failed⟩
  next =>
    apply Or.inl
    split at failed
    next =>
      split at failed
      next unknown =>
        rw [unknown] at known
        cases known.1
      next isOperation =>
        split at failed
        next =>
          rw [eq_divisionByZero_of_integerOperation isOperation (Except.map_eq_error_iff.mp failed)]
          rfl
        next => cases failed; rfl
    next =>
      split at failed
      next unknown =>
        rw [unknown] at known
        cases known.2
      next isOperation =>
        split at failed
        next =>
          rw [eq_divisionByZero_of_decimalOperation isOperation (Except.map_eq_error_iff.mp failed)]
          rfl
        next => cases failed; rfl
    next => cases failed; rfl

/-- An operator of the language that fails names a family, or it was to write an integer that is too long. -/
theorem fault_of_combine (known : op.IsKnown) (plain : op.decisive? = none) (left : l.IsPlain) (right : r.IsPlain)
    (failed : combine op l r = .error f) :
    f.family?.isSome ∨ f = .unwritableInteger ∧ Moment.WritesTooLong (.combining op l r) := by
  cases op with
  | and | or => cases plain
  | eq | ne => cases failed
  | lt | le | gt | ge => exact .inl (family?_of_order (Except.map_eq_error_iff.mp failed))
  | add | sub | mul | div => exact fault_of_arithmetic (by decide) left right failed
  | other symbol => exact absurd rfl (known symbol)

end Value

/-! ## Worlds -/

/-- That a body prints, or is code that is fresh once its slots are empty. -/
def Body.Stocked : Body → Prop
  | .native f => f = Native.print
  | .method _ statements _ => ∀ s ∈ Stmt.bareAll statements, s.Fresh

/-- That all variables of a world hold plain values, and its functions know no others. -/
structure World.Stocked (w : World) : Prop where
  cells : ∀ n v, w.store.cells.get? n = some v → v.IsPlain
  bodies : ∀ n body, w.bodies.get? n = some body → body.Stocked

theorem World.Stocked.write {w : World} (stocked : w.Stocked) {x : Value} (plain : x.IsPlain) (space : Space)
    (v : Variable) : World.Stocked { w with space, store := w.store.write v x } where
  cells n y isCell := by
    change (w.store.cells.set v.number x).get? n = some y at isCell
    rw [Table.get?_set] at isCell
    split at isCell
    next =>
      cases isCell
      exact plain
    next => exact stocked.cells n y isCell
  bodies := stocked.bodies

/-! ## Steps that stop with faults of families -/

/-- That a run stopped with a fault of a family, if it was for a fault. -/
def Stop.IsNamed : Stop → Prop
  | .fault f => f.family?.isSome
  | .outOfFuel => True

namespace Run

variable {α β : Type} {mid : β → Prop} {post : α → Prop} {scope : ScopeId}

/-- That a step keeps a world stocked, whichever it is, and gives what is promised or stops with a fault of a
family. -/
def Regular (post : α → Prop) (x : Run α) : Prop :=
  ∀ w : World, w.Stocked → Ends Stop.IsNamed w (fun a w' => post a ∧ w'.Stocked) x

theorem regular_pure {a : α} (holds : post a) : Regular post (pure a) :=
  fun _ stocked => ⟨holds, stocked⟩

theorem regular_throw {stop : Stop} (named : stop.IsNamed) : Regular post (throw stop) :=
  fun _ _ => named

theorem Regular.bind {x : Run β} {f : β → Run α} (first : Regular mid x)
    (others : ∀ b, mid b → Regular post (f b)) : Regular post (x >>= f) :=
  fun w stocked => (first w stocked).bind fun b w' ⟨holds, stocked'⟩ => others b holds w' stocked'

theorem regular_get {f : World → Run α} (others : ∀ w, w.Stocked →
    Ends Stop.IsNamed w (fun a w' => post a ∧ w'.Stocked) (f w)) : Regular post (get >>= f) :=
  fun w stocked => others w stocked

theorem regular_ofExcept {result : Except Fault α} (gives : ∀ a, result = .ok a → post a)
    (fails : ∀ f, result = .error f → f.family?.isSome) : Regular post (ofExcept result) := by
  cases result with
  | ok a => exact regular_pure (gives a rfl)
  | error f => exact regular_throw (fails f rfl)

theorem regular_toBool (x : Value) : Regular (fun _ => True) (ofExcept x.toBool) := by
  apply regular_ofExcept
  · exact fun _ _ => trivial
  · intro f failed
    cases x <;> cases failed <;> rfl

theorem regular_child : Regular (fun _ => True) (child scope) := by
  rintro ⟨space, store, bodies, methods⟩ stocked
  exact ⟨trivial, stocked.cells, stocked.bodies⟩

theorem regular_bind {name : String} {x : Value} (plain : x.IsPlain) :
    Regular (fun _ => True) (Run.bind scope name x) := by
  rintro ⟨space, store, bodies, methods⟩ stocked
  dsimp only [Ends, Run.bind]
  cases space.holdsVariable scope name with
  | true => exact rfl
  | false => exact ⟨trivial, stocked.write plain _ _⟩

theorem regular_bindAll {pairs : List (String × Value)} (plain : ∀ pair ∈ pairs, pair.2.IsPlain) :
    Regular (fun _ => True) (bindAll scope pairs) := by
  induction pairs with
  | nil => exact regular_pure trivial
  | cons pair pairs ih =>
    obtain ⟨first, others⟩ := List.forall_mem_cons.mp plain
    exact (regular_bind first).bind fun _ _ => ih others

theorem regular_variableOf (name : String) : Regular (fun _ => True) (variableOf scope name) := by
  apply regular_get
  intro w stocked
  cases w.space.lookupVariable? scope name with
  | some v => exact regular_pure trivial w stocked
  | none => exact rfl

theorem regular_functionOf (name : String) (arity : Nat) :
    Regular (fun _ => True) (functionOf scope name arity) := by
  apply regular_get
  intro w stocked
  cases w.space.lookupFunction? scope name arity with
  | some f => exact regular_pure trivial w stocked
  | none => exact rfl

/-- A variable that was never given a value holds nil. -/
theorem regular_read (v : Variable) : Regular Value.IsPlain (read v) := by
  apply regular_get
  intro w stocked
  apply regular_pure _ w stocked
  unfold Store.read
  cases isCell : w.store.cells.get? v.number with
  | none => exact trivial
  | some x => exact stocked.cells _ x isCell

theorem regular_write (v : Variable) {x : Value} (plain : x.IsPlain) : Regular (fun _ => True) (write v x) := by
  rintro ⟨space, store, bodies, methods⟩ stocked
  exact ⟨trivial, stocked.write plain space v⟩

theorem regular_fieldOf (receiver : Value) (name : String) : Regular (fun _ => True) (fieldOf receiver name) := by
  apply regular_get
  intro w stocked
  apply regular_ofExcept _ _ w stocked
  · exact fun _ _ => trivial
  · intro f failed
    unfold Store.field at failed
    split at failed
    next =>
      split at failed <;> cases failed
      exact rfl
    next =>
      cases failed
      exact rfl

theorem regular_methodOf (receiver : Value) (name : String) (arity : Nat) :
    Regular (fun _ => True) (methodOf receiver name arity) := by
  unfold methodOf
  split
  next number typeName =>
    apply regular_get
    intro w stocked
    split
    next => exact regular_pure trivial w stocked
    next => exact rfl
  next => exact regular_throw rfl

theorem regular_enter {f : Function} {params : List String} {args : List Value} (given : ∀ x ∈ args, x.IsPlain) :
    Regular (fun _ => True) (plain.enter f scope params args) := by
  have paired : ∀ pair ∈ params.zip args, pair.2.IsPlain := fun pair mem => given pair.2 (List.of_mem_zip mem).2
  exact regular_child.bind fun frame _ => (regular_bindAll paired).bind fun _ _ => regular_pure trivial

theorem regular_declareMethod {m : Method} (fresh : m.bare.Fresh) :
    Regular (fun _ => True) (declareMethod scope m) := by
  intro w stocked
  dsimp only [Ends, declareMethod]
  cases w.space.declareFunction? scope m.name ((m.params.map Param.name).map fun _ => .any) .any with
  | none => exact rfl
  | some declared =>
    obtain ⟨space, f⟩ := declared
    refine ⟨trivial, stocked.cells, fun n body found => ?_⟩
    dsimp only [World.setBody] at found
    rw [Table.get?_set] at found
    split at found
    next =>
      cases found
      exact fresh.body
    next => exact stocked.bodies n body found

end Run

/-! ## Expressions and statements -/

/-- That a watched run stopped with a fault of a family, or where an integer was to be written that is too long. -/
def Stopped.IsRegular : Stopped → Prop
  | ⟨.fault f, moment⟩ => f.family?.isSome ∨ f = .unwritableInteger ∧ moment.WritesTooLong
  | ⟨.outOfFuel, _⟩ => True

namespace Watch

variable {α β : Type} {mid : β → Prop} {post : α → Prop}

/-- That a watched step keeps a world stocked, whichever it is, and gives what is promised or stops as it may. -/
def Regular (post : α → Prop) (x : WatchedRun α) : Prop :=
  ∀ w : World, w.Stocked → Run.Ends Stopped.IsRegular w (fun a w' => post a ∧ w'.Stocked) x

theorem regular_pure {a : α} (holds : post a) : Regular post (pure a) :=
  fun _ stocked => ⟨holds, stocked⟩

theorem Regular.bind {x : WatchedRun β} {f : β → WatchedRun α} (first : Regular mid x)
    (others : ∀ b, mid b → Regular post (f b)) : Regular post (x >>= f) :=
  fun w stocked => (first w stocked).bind fun b w' ⟨holds, stocked'⟩ => others b holds w' stocked'

/-- A step that stops with faults of families only may do so at any moment. -/
theorem regular_during {moment : Moment} {x : Run α} (regular : Run.Regular post x) :
    Regular post (during moment x) := by
  intro w stocked
  have ends := regular w stocked
  unfold Run.Ends during at *
  cases ran : x w with
  | ok a w' =>
    rw [ran] at ends
    exact ends
  | error stop w' =>
    rw [ran] at ends
    cases stop with
    | fault f => exact .inl ends
    | outOfFuel => trivial

theorem regular_step {x : Run α} (regular : Run.Regular post x) : Regular post (conduct.step x) :=
  regular_during regular

theorem regular_get {f : World → WatchedRun α} (others : ∀ w, w.Stocked →
    Run.Ends Stopped.IsRegular w (fun a w' => post a ∧ w'.Stocked) (f w)) : Regular post (conduct.step get >>= f) :=
  fun w stocked => others w stocked

theorem regular_throw {stop : Stop} (named : stop.IsNamed) : Regular post (conduct.step (throw stop)) :=
  regular_step (Run.regular_throw named)

theorem regular_toBool (x : Value) : Regular (fun _ => True) (conduct.step (Run.ofExcept x.toBool)) :=
  regular_step (Run.regular_toBool x)

theorem regular_combine {op : Operator} {l r : Value} (known : op.IsKnown) (both : op.decisive? = none)
    (left : l.IsPlain) (right : r.IsPlain) : Regular Value.IsPlain (conduct.combine op l r) := by
  intro w stocked
  dsimp only [Run.Ends, conduct, during]
  cases made : l.combine op r with
  | ok v => exact ⟨Value.isPlain_of_combine made, stocked⟩
  | error f => exact Value.fault_of_combine known both left right made

theorem regular_print {args : List Value} (given : ∀ x ∈ args, x.IsPlain) :
    Regular Value.IsPlain (conduct.native Native.print args) := by
  rintro ⟨space, store, bodies, methods⟩ stocked
  have plain : (Native.nth args 0).IsPlain := by
    unfold Native.nth
    cases args with
    | nil => trivial
    | cons x args => exact given x List.mem_cons_self
  dsimp only [Run.Ends, conduct, during, Run.native, Native.print]
  cases textless : (Native.nth args 0).display? with
  | none =>
    obtain ⟨n, isInteger, long⟩ := plain.eq_int_of_display?_eq_none textless
    exact .inr ⟨rfl, n, isInteger ▸ .printed args, long⟩
  | some text => exact ⟨trivial, stocked.cells, stocked.bodies⟩

/-- What a statement promises: a plain value, if it ends its method. -/
abbrev Yields (outcome : Option Value) : Prop :=
  ∀ x ∈ outcome, x.IsPlain

theorem yields_none : Yields none :=
  fun _ isValue => (nomatch isValue)

mutual
theorem evaluate_regular (fuel calls : Nat) (scope : ScopeId) {e : Expr} (fresh : e.bare.Fresh) :
    Regular Value.IsPlain (conduct.evaluate fuel calls () scope e) := by
  cases fuel with
  | zero =>
    unfold Conduct.evaluate
    exact regular_throw trivial
  | succ fuel =>
    unfold Conduct.evaluate
    cases e with
    | literal value =>
      cases fresh with
      | literal sort => exact regular_pure sort.1
    | group inner =>
      cases fresh with
      | group inside => exact evaluate_regular fuel calls scope inside
    | binary op left right =>
      rw [Expr.bare] at fresh
      cases fresh with
      | binary known first second =>
        have evaluated := evaluate_regular fuel calls scope first
        have evaluated' := evaluate_regular fuel calls scope second
        dsimp only
        split
        next =>
          refine evaluated.bind fun l _ => (regular_toBool l).bind fun decided _ => ?_
          split
          next => exact regular_pure trivial
          next => exact evaluated'.bind fun r _ => (regular_toBool r).bind fun b _ => regular_pure trivial
        next both =>
          exact evaluated.bind fun l left => evaluated'.bind fun r right => regular_combine known both left right
    | ref name =>
      exact (regular_during (Run.regular_variableOf name)).bind fun v _ => regular_step (Run.regular_read v)
    | field receiver name =>
      cases fresh with
      | field inside =>
        refine (evaluate_regular fuel calls scope inside).bind fun r _ => ?_
        exact (regular_step (Run.regular_fieldOf r name)).bind fun v _ => regular_step (Run.regular_read v)
    | call name args =>
      rw [Expr.bare] at fresh
      cases fresh with
      | call given =>
        refine (evaluateAll_regular fuel calls scope given).bind fun xs plain => ?_
        exact (regular_during (Run.regular_functionOf name xs.length)).bind fun f _ => invoke_regular fuel calls f plain
    | send receiver name args =>
      rw [Expr.bare] at fresh
      cases fresh with
      | send inside given =>
        refine (evaluateAll_regular fuel calls scope given).bind fun xs plain => ?_
        refine (evaluate_regular fuel calls scope inside).bind fun r isPlain => ?_
        refine (regular_step (Run.regular_methodOf r name xs.length)).bind fun f _ => ?_
        exact invoke_regular fuel calls f (List.forall_mem_cons.mpr ⟨isPlain, plain⟩)
    | unknown => cases fresh
termination_by fuel
decreasing_by all_goals omega

theorem evaluateAll_regular (fuel calls : Nat) (scope : ScopeId) {es : List Expr}
    (fresh : ∀ e ∈ Expr.bareAll es, e.Fresh) :
    Regular (fun xs => ∀ x ∈ xs, x.IsPlain) (conduct.evaluateAll fuel calls () scope es) := by
  cases fuel with
  | zero =>
    unfold Conduct.evaluateAll
    exact regular_throw trivial
  | succ fuel =>
    unfold Conduct.evaluateAll
    cases es with
    | nil => exact regular_pure (List.forall_mem_nil Value.IsPlain)
    | cons e es =>
      obtain ⟨first, others⟩ := List.forall_mem_cons.mp fresh
      refine (evaluate_regular fuel calls scope first).bind fun x isPlain => ?_
      refine (evaluateAll_regular fuel calls scope others).bind fun xs plain => ?_
      exact regular_pure (List.forall_mem_cons.mpr ⟨isPlain, plain⟩)
termination_by fuel
decreasing_by all_goals omega

theorem invoke_regular (fuel calls : Nat) (f : Function) {args : List Value} (given : ∀ x ∈ args, x.IsPlain) :
    Regular Value.IsPlain (conduct.invoke fuel calls f args) := by
  cases fuel with
  | zero =>
    unfold Conduct.invoke
    exact regular_throw trivial
  | succ fuel =>
    unfold Conduct.invoke
    apply regular_get
    intro w stocked
    cases isBody : w.bodies.get? f.number with
    | none => exact regular_pure trivial w stocked
    | some body =>
      have known := stocked.bodies f.number body isBody
      cases body with
      | native g =>
        cases known
        exact regular_print given w stocked
      | method params statements scope =>
        cases calls with
        | zero => exact .inl rfl
        | succ calls =>
          refine Regular.bind (regular_during (Run.regular_enter given)) (fun entered _ => ?_) w stocked
          refine (executeAll_regular fuel calls entered.1 known).bind fun outcome plain => ?_
          apply regular_pure
          cases outcome with
          | none => trivial
          | some x => exact plain x rfl
termination_by fuel
decreasing_by all_goals omega

theorem execute_regular (fuel calls : Nat) (scope : ScopeId) {s : Stmt} (fresh : s.bare.Fresh) :
    Regular Yields (conduct.execute fuel calls () scope s) := by
  cases fuel with
  | zero =>
    unfold Conduct.execute
    exact regular_throw trivial
  | succ fuel =>
    unfold Conduct.execute
    cases s with
    | expression e =>
      cases fresh with
      | expression inside =>
        exact (evaluate_regular fuel calls scope inside).bind fun _ _ => regular_pure yields_none
    | declaration name typeName initializer =>
      have bound : ∀ x : Value, x.IsPlain → Regular Yields (do
          conduct.bind () scope name x none
          return none) := fun x plain =>
        (regular_during (Run.regular_bind plain)).bind fun _ _ => regular_pure yields_none
      cases fresh with
      | declaration inside =>
        cases initializer with
        | none => exact Regular.bind (regular_pure (a := Value.nil) trivial) bound
        | some e => exact (evaluate_regular fuel calls scope (inside e.bare rfl)).bind bound
    | assignment target value =>
      cases fresh with
      | assignment first second =>
        have evaluated := evaluate_regular fuel calls scope second
        cases target with
        | ref name =>
          refine (regular_during (Run.regular_variableOf name)).bind fun v _ => evaluated.bind fun x plain => ?_
          exact (regular_step (Run.regular_write v plain)).bind fun _ _ => regular_pure yields_none
        | field receiver name =>
          cases first with
          | field inside =>
            refine (evaluate_regular fuel calls scope inside).bind fun r _ => evaluated.bind fun x plain => ?_
            refine (regular_step (Run.regular_fieldOf r name)).bind fun v _ => ?_
            exact (regular_step (Run.regular_write v plain)).bind fun _ _ => regular_pure yields_none
        | _ => exact regular_throw rfl
    | conditional condition thenPart elsePart =>
      rw [Stmt.bare] at fresh
      cases fresh with
      | conditional tested first second =>
        refine (evaluate_regular fuel calls scope tested).bind fun x _ => (regular_toBool x).bind fun c _ => ?_
        refine (regular_step Run.regular_child).bind fun inner _ => ?_
        cases c with
        | true => exact executeAll_regular fuel calls inner first
        | false => exact executeAll_regular fuel calls inner second
    | forEach name iterable body =>
      rw [Stmt.bare] at fresh
      cases fresh with
      | forEach iterated inside =>
        refine (evaluate_regular fuel calls scope iterated).bind fun x plain => ?_
        -- Only values of a host have items.
        have notItems : Items.ofValue? x = none := by
          cases x with
          | range | list => cases plain
          | _ => rfl
        rw [notItems]
        exact regular_throw rfl
    | whileLoop condition body =>
      rw [Stmt.bare] at fresh
      cases fresh with
      | whileLoop tested inside => exact whileLoop_regular fuel calls scope tested inside
    | ret value =>
      cases fresh with
      | ret inside =>
        refine (evaluate_regular fuel calls scope inside).bind fun x plain => ?_
        exact regular_pure fun y isValue => Option.some.inj isValue ▸ plain
    | unknown => cases fresh
termination_by fuel
decreasing_by all_goals omega

theorem executeAll_regular (fuel calls : Nat) (scope : ScopeId) {ss : List Stmt}
    (fresh : ∀ s ∈ Stmt.bareAll ss, s.Fresh) : Regular Yields (conduct.executeAll fuel calls () scope ss) := by
  cases fuel with
  | zero =>
    unfold Conduct.executeAll
    exact regular_throw trivial
  | succ fuel =>
    unfold Conduct.executeAll
    cases ss with
    | nil => exact regular_pure yields_none
    | cons s ss =>
      obtain ⟨first, others⟩ := List.forall_mem_cons.mp fresh
      refine (execute_regular fuel calls scope first).bind fun outcome plain => ?_
      cases outcome with
      | some x => exact regular_pure plain
      | none => exact executeAll_regular fuel calls scope others
termination_by fuel
decreasing_by all_goals omega

theorem whileLoop_regular (fuel calls : Nat) (scope : ScopeId) {condition : Expr} {body : List Stmt}
    (tested : condition.bare.Fresh) (inside : ∀ s ∈ Stmt.bareAll body, s.Fresh) :
    Regular Yields (conduct.whileLoop fuel calls () scope condition body) := by
  cases fuel with
  | zero =>
    unfold Conduct.whileLoop
    exact regular_throw trivial
  | succ fuel =>
    unfold Conduct.whileLoop
    refine (evaluate_regular fuel calls scope tested).bind fun x _ => (regular_toBool x).bind fun c _ => ?_
    split
    next =>
      refine (regular_step Run.regular_child).bind fun inner _ => ?_
      refine (executeAll_regular fuel calls inner inside).bind fun outcome plain => ?_
      cases outcome with
      | some x => exact regular_pure plain
      | none => exact whileLoop_regular fuel calls scope tested inside
    next => exact regular_pure yields_none
termination_by fuel
decreasing_by all_goals omega
end

/-! ## Programs -/

theorem declareFields_regular (fuel calls : Nat) (scope : ScopeId) {fs : List Field}
    (fresh : ∀ f ∈ fs, f.bare.Fresh) : Regular (fun _ => True) (conduct.declareFields fuel calls scope fs) := by
  induction fs with
  | nil => exact regular_pure trivial
  | cons f fs ih =>
    obtain ⟨first, others⟩ := List.forall_mem_cons.mp fresh
    have bound : ∀ x : Value, x.IsPlain → Regular (fun _ => True) (conduct.bind () scope f.name x f.binding) :=
      fun x plain => regular_during (Run.regular_bind plain)
    have declared : Regular (fun _ => True) (conduct.declareField fuel calls scope f) := by
      have initializer := first.initializer
      unfold Conduct.declareField Conduct.declare
      dsimp only [Field.bare] at initializer
      cases isInitializer : f.initializer with
      | none => exact Regular.bind (regular_pure (a := Value.nil) trivial) bound
      | some e =>
        rw [isInitializer] at initializer
        exact (evaluate_regular fuel calls scope (initializer e.bare rfl)).bind bound
    exact declared.bind fun _ _ => ih others

theorem declareMethods_regular {scope : ScopeId} {ms : List Method} (fresh : ∀ m ∈ ms, m.bare.Fresh) :
    Regular (fun _ => True) (conduct.declareMethods scope ms) := by
  induction ms with
  | nil => exact regular_pure trivial
  | cons m ms ih =>
    obtain ⟨first, others⟩ := List.forall_mem_cons.mp fresh
    exact (regular_during (Run.regular_declareMethod first)).bind fun _ _ => ih others

/-- A program that is fresh once its slots are empty gives a plain value, or stops with a fault of a family, or stops
where an integer was to be written that is too long. -/
theorem program_regular (fuel calls : Nat) (outer : ScopeId) {s : Source} (fresh : s.bare.Fresh) :
    Regular Value.IsPlain (program fuel calls outer s) := by
  refine (regular_step Run.regular_child).bind fun scope _ => ?_
  refine (declareFields_regular fuel calls scope (List.forall_mem_map.mp fresh.fields)).bind fun _ _ => ?_
  refine (declareMethods_regular (List.forall_mem_map.mp fresh.methods)).bind fun _ _ => ?_
  refine (regular_step (Run.regular_functionOf "main" 0)).bind fun main _ => ?_
  exact invoke_regular fuel calls main (List.forall_mem_nil Value.IsPlain)

end Watch

theorem rootWorld_stocked : CommandLine.rootWorld.1.Stocked where
  cells n v isCell := by
    have empty : CommandLine.rootWorld.1.store.cells.get? n = none := by
      change (#[][n]? : Option (Option Value)).join = none
      simp
    rw [empty] at isCell
    cases isCell
  bodies n body found := by
    have bodies : CommandLine.rootWorld.1.bodies = Table.set {} 0 (.native Native.print) := rfl
    rw [bodies, Table.get?_set] at found
    split at found
    next =>
      cases found
      rfl
    next => cases found

end Primer
