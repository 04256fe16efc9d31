import Primer.Proofs.Run.Declarations
import Primer.Proofs.Tree.Bare
import Primer.Proofs.Tree.Unplaced

/-!
# What a run sees of a program

A run looks neither at offsets nor at slots, and of the statements of a block it never reaches those behind
one that ends the method. What is left of a tree without all of these is its essence.

**The law** (`program_essence`): a program and its essence run alike. From worlds that differ in nothing but
the bodies of their methods, which have the same essence, the two runs give the same value or stop for the
same reason, and they end in worlds that differ in nothing but that, with the same output and the same
values of all variables.

The bodies of methods are part of the world, so this is a law of worlds: forgetting what a run does not see
before it starts is forgetting it after it has ended. `Mirrors` says that of one step.
-/

namespace Primer

mutual
/-- What a run sees of an expression. -/
@[simp]
def Expr.essence : Expr → Expr
  | .literal value _ _ => .literal value 0
  | .group inner _ _ => .group inner.essence 0
  | .binary op left right _ _ => .binary op left.essence right.essence 0
  | .ref name _ _ _ => .ref name 0
  | .field receiver name _ _ _ => .field receiver.essence name 0
  | .call name args _ _ _ => .call name (Expr.essenceAll args) 0
  | .send receiver name args _ _ _ => .send receiver.essence name (Expr.essenceAll args) 0
  | .unknown _ => .unknown 0

/-- What a run sees of expressions. -/
@[simp]
def Expr.essenceAll : List Expr → List Expr
  | [] => []
  | e :: es => e.essence :: Expr.essenceAll es
end

/-- Whether a statement ends the method it stands in. -/
def Stmt.returns : Stmt → Bool
  | .ret .. => true
  | _ => false

mutual
/-- What a run sees of a statement. -/
@[simp]
def Stmt.essence : Stmt → Stmt
  | .expression e _ => .expression e.essence 0
  | .declaration name typeName initializer _ _ => .declaration name typeName (initializer.map Expr.essence) 0
  | .assignment target value _ => .assignment target.essence value.essence 0
  | .conditional condition thenPart elsePart _ =>
    .conditional condition.essence (Stmt.essenceAll thenPart) (Stmt.essenceAll elsePart) 0
  | .forEach name iterable body _ => .forEach name iterable.essence (Stmt.essenceAll body) 0
  | .whileLoop condition body _ => .whileLoop condition.essence (Stmt.essenceAll body) 0
  | .ret value _ => .ret value.essence 0
  | .unknown _ => .unknown 0

/-- What a run sees of statements: nothing behind one that ends the method. -/
@[simp]
def Stmt.essenceAll : List Stmt → List Stmt
  | [] => []
  | s :: ss => s.essence :: if s.returns then [] else Stmt.essenceAll ss
end

/-- What a run sees of a field. -/
def Field.essence (f : Field) : Field :=
  { f with initializer := f.initializer.map Expr.essence, offset := 0, binding := none }

/-- What a run sees of a method. -/
def Method.essence (m : Method) : Method :=
  { m with body := Stmt.essenceAll m.body, offset := 0, callee := none }

/-- What a run sees of a program. -/
def Source.essence (s : Source) : Source :=
  { fields := s.fields.map Field.essence, methods := s.methods.map Method.essence }

/-! ## Places are no part of the essence -/

mutual
@[simp]
theorem Expr.essence_unplaced (e : Expr) : e.unplaced.essence = e.essence := by
  cases e with
  | literal value offset type => rfl
  | group inner offset type => simp [inner.essence_unplaced]
  | binary op left right offset type => simp [left.essence_unplaced, right.essence_unplaced]
  | ref name offset binding type => rfl
  | field receiver name offset binding type => simp [receiver.essence_unplaced]
  | call name args offset callee type => simp [Expr.essenceAll_unplaced args]
  | send receiver name args offset callee type =>
    simp [receiver.essence_unplaced, Expr.essenceAll_unplaced args]
  | unknown offset => rfl

@[simp]
theorem Expr.essenceAll_unplaced (es : List Expr) :
    Expr.essenceAll (Expr.unplacedAll es) = Expr.essenceAll es := by
  cases es with
  | nil => rfl
  | cons e es => simp [e.essence_unplaced, Expr.essenceAll_unplaced es]
end

mutual
@[simp]
theorem Stmt.essence_unplaced (s : Stmt) : s.unplaced.essence = s.essence := by
  cases s with
  | declaration name typeName initializer offset binding => cases initializer <;> simp
  | conditional condition thenPart elsePart offset =>
    simp [Stmt.essenceAll_unplaced thenPart, Stmt.essenceAll_unplaced elsePart]
  | forEach name iterable body offset => simp [Stmt.essenceAll_unplaced body]
  | whileLoop condition body offset => simp [Stmt.essenceAll_unplaced body]
  | _ => simp

@[simp]
theorem Stmt.essenceAll_unplaced (ss : List Stmt) :
    Stmt.essenceAll (Stmt.unplacedAll ss) = Stmt.essenceAll ss := by
  cases ss with
  | nil => rfl
  | cons s ss =>
    have sameEnd : s.unplaced.returns = s.returns := by cases s <;> simp [Stmt.returns]
    simp [s.essence_unplaced, sameEnd, Stmt.essenceAll_unplaced ss]
end

theorem Field.essence_unplaced (f : Field) : f.unplaced.essence = f.essence := by
  obtain ⟨name, typeName, initializer, offset, binding⟩ := f
  cases initializer <;> simp [Field.essence, Field.unplaced]

theorem Source.essence_unplaced (s : Source) : s.unplaced.essence = s.essence := by
  have method : ∀ m : Method, m.unplaced.essence = m.essence := fun m => by
    simp [Method.essence, Method.unplaced]
  simp [essence, unplaced, Field.essence_unplaced, method]

/-! ## Slots are no part of the essence -/

mutual
theorem Expr.essence_bare (e : Expr) : e.bare.essence = e.essence := by
  cases e with
  | literal | ref | unknown => rfl
  | group inner offset type => simp [inner.essence_bare]
  | binary op left right offset type => simp [left.essence_bare, right.essence_bare]
  | field receiver name offset binding type => simp [receiver.essence_bare]
  | call name args offset callee type => simp [Expr.essenceAll_bareAll args]
  | send receiver name args offset callee type => simp [receiver.essence_bare, Expr.essenceAll_bareAll args]

theorem Expr.essenceAll_bareAll (es : List Expr) : Expr.essenceAll (Expr.bareAll es) = Expr.essenceAll es := by
  cases es with
  | nil => rfl
  | cons e es => simp [e.essence_bare, Expr.essenceAll_bareAll es]
end

mutual
theorem Stmt.essence_bare (s : Stmt) : s.bare.essence = s.essence := by
  cases s with
  | declaration name typeName initializer offset binding => cases initializer <;> simp [Expr.essence_bare]
  | conditional condition thenPart elsePart offset =>
    simp [Expr.essence_bare, Stmt.essenceAll_bareAll thenPart, Stmt.essenceAll_bareAll elsePart]
  | forEach name iterable body offset => simp [Expr.essence_bare, Stmt.essenceAll_bareAll body]
  | whileLoop condition body offset => simp [Expr.essence_bare, Stmt.essenceAll_bareAll body]
  | _ => simp [Expr.essence_bare]

theorem Stmt.essenceAll_bareAll (ss : List Stmt) : Stmt.essenceAll (Stmt.bareAll ss) = Stmt.essenceAll ss := by
  cases ss with
  | nil => rfl
  | cons s ss =>
    have sameEnd : s.bare.returns = s.returns := by cases s <;> simp [Stmt.returns]
    simp [s.essence_bare, sameEnd, Stmt.essenceAll_bareAll ss]
end

theorem Source.essence_bare (s : Source) : s.bare.essence = s.essence := by
  have field : ∀ f : Field, f.bare.essence = f.essence := fun f => by
    cases isInitializer : f.initializer <;> simp [Field.essence, Field.bare, isInitializer, Expr.essence_bare]
  have method : ∀ m : Method, m.bare.essence = m.essence := fun m => by
    simp [Method.essence, Method.bare, Stmt.essenceAll_bareAll]
  simp [essence, bare, field, method]

/-! ## Worlds -/

/-- What a run sees of the body of a function. -/
def Body.essence : Body → Body
  | native f => native f
  | method params statements scope => method params (Stmt.essenceAll statements) scope

/-- A table with something else entered in place of each entry. -/
def Table.map {α β : Type} (f : α → β) (t : Table α) : Table β :=
  { entries := t.entries.map (Option.map f) }

theorem Table.get?_map {α β : Type} (f : α → β) (t : Table α) (i : Nat) :
    (t.map f).get? i = (t.get? i).map f := by
  simp only [Table.map, get?, Array.getElem?_map]
  cases t.entries[i]? <;> rfl

theorem Table.map_set {α β : Type} (f : α → β) (t : Table α) (i : Nat) (a : α) :
    (t.set i a).map f = (t.map f).set i (f a) := by
  simp [Table.map, set, reserve]

/-- What runs see of a world. -/
def World.essence (w : World) : World :=
  { w with bodies := w.bodies.map Body.essence }

namespace Run

/-- How a step ended, with what runs see of the world. -/
def essenceOf {α : Type} : EStateM.Result Stop World α → EStateM.Result Stop World α
  | .ok a w => .ok a w.essence
  | .error stop w => .error stop w.essence

/-- That one step does with the essence of a world what another does with the world. -/
def Mirrors {α : Type} (x' x : Run α) : Prop :=
  ∀ w : World, x' w.essence = essenceOf (x w)

variable {α β : Type}

theorem mirrors_pure (a : α) : Mirrors (pure a) (pure a) :=
  fun _ => rfl

theorem mirrors_throw (stop : Stop) : Mirrors (throw stop : Run α) (throw stop) :=
  fun _ => rfl

/-- One step after another, for what the first of them can give. -/
theorem Mirrors.bindOk {x x' : Run α} {f f' : α → Run β} (first : Mirrors x' x)
    (others : ∀ a w w', x w = .ok a w' → Mirrors (f' a) (f a)) : Mirrors (x' >>= f') (x >>= f) := by
  intro w
  change EStateM.bind x' f' w.essence = essenceOf (EStateM.bind x f w)
  rw [EStateM.bind, EStateM.bind, first w]
  cases ran : x w with
  | ok a w' => exact others a w w' ran w'
  | error stop w' => rfl

theorem Mirrors.bind {x x' : Run α} {f f' : α → Run β} (first : Mirrors x' x)
    (others : ∀ a, Mirrors (f' a) (f a)) : Mirrors (x' >>= f') (x >>= f) :=
  first.bindOk fun a _ _ _ => others a

/-! ## Steps that do not look at bodies -/

theorem mirrors_ofExcept (r : Except Fault α) : Mirrors (ofExcept r) (ofExcept r) := by
  cases r with
  | ok a => exact mirrors_pure a
  | error f => exact mirrors_throw _

theorem mirrors_native (f : Native) (args : List Value) : Mirrors (native f args) (native f args) := by
  intro w
  simp only [native, World.essence]
  cases f args w.store <;> rfl

theorem mirrors_child (scope : ScopeId) : Mirrors (child scope) (child scope) :=
  fun _ => rfl

theorem mirrors_bind (scope : ScopeId) (name : String) (x : Value) :
    Mirrors (Run.bind scope name x) (Run.bind scope name x) := by
  intro w
  by_cases held : w.space.holdsVariable scope name = true
  · simp [Run.bind, World.essence, held, essenceOf]
  · simp [Run.bind, World.essence, held, essenceOf]

theorem mirrors_bindAll (scope : ScopeId) (pairs : List (String × Value)) :
    Mirrors (bindAll scope pairs) (bindAll scope pairs) := by
  induction pairs with
  | nil => exact mirrors_pure ()
  | cons pair pairs ih => exact (mirrors_bind scope pair.1 pair.2).bind fun _ => ih

theorem mirrors_enter (f : Function) (scope : ScopeId) (params : List String) (args : List Value) :
    Mirrors (plain.enter f scope params args) (plain.enter f scope params args) :=
  (mirrors_child scope).bind fun frame => (mirrors_bindAll frame _).bind fun _ => mirrors_pure _

theorem mirrors_write (v : Variable) (x : Value) : Mirrors (write v x) (write v x) :=
  fun _ => rfl

theorem mirrors_read (v : Variable) : Mirrors (read v) (read v) :=
  fun _ => rfl

/-- A step that goes by what runs see of the world. -/
theorem mirrors_get {f f' : World → Run β} (same : ∀ w, Mirrors (f' w.essence) (f w)) :
    Mirrors (get >>= f') (get >>= f) :=
  fun w => same w w

theorem mirrors_variableOf (scope : ScopeId) (name : String) :
    Mirrors (variableOf scope name) (variableOf scope name) := by
  refine mirrors_get fun w => ?_
  dsimp only [World.essence]
  cases w.space.lookupVariable? scope name with
  | some v => exact mirrors_pure v
  | none => exact mirrors_throw _

theorem mirrors_functionOf (scope : ScopeId) (name : String) (arity : Nat) :
    Mirrors (functionOf scope name arity) (functionOf scope name arity) := by
  refine mirrors_get fun w => ?_
  dsimp only [World.essence]
  cases w.space.lookupFunction? scope name arity with
  | some f => exact mirrors_pure f
  | none => exact mirrors_throw _

theorem mirrors_fieldOf (receiver : Value) (name : String) :
    Mirrors (fieldOf receiver name) (fieldOf receiver name) :=
  mirrors_get fun _ => mirrors_ofExcept _

theorem mirrors_methodOf (receiver : Value) (name : String) (arity : Nat) :
    Mirrors (methodOf receiver name arity) (methodOf receiver name arity) := by
  cases receiver with
  | object number typeName =>
    refine mirrors_get fun w => ?_
    dsimp only [World.essence]
    cases w.methods.find? fun m => m.1 == number && m.2.name == name && m.2.arity == arity + 1 with
    | some m => exact mirrors_pure _
    | none => exact mirrors_throw _
  | _ => exact mirrors_throw _

/-! ## Evaluating and executing -/

/-- A statement that ends the method gives a value if it gives anything. -/
theorem execute_of_returns {fuel calls : Nat} {scope : ScopeId} {s : Stmt} {outcome : Option Value} {w w' : World}
    (ends : s.returns = true) (ran : execute fuel calls scope s w = .ok outcome w') :
    ∃ x, outcome = some x := by
  cases s with
  | ret value offset =>
    cases fuel with
    | zero =>
      unfold execute Conduct.execute at ran
      cases ran
    | succ fuel =>
      unfold execute Conduct.execute at ran
      change EStateM.bind (evaluate fuel calls scope value) _ w = _ at ran
      rw [EStateM.bind] at ran
      cases evaluated : evaluate fuel calls scope value w with
      | ok x w₁ =>
        rw [evaluated] at ran
        cases ran
        exact ⟨x, rfl⟩
      | error stop w₁ =>
        rw [evaluated] at ran
        cases ran
  | _ => cases ends

mutual
theorem evaluate_essence (fuel calls : Nat) (scope : ScopeId) (e : Expr) :
    Mirrors (evaluate fuel calls scope e.essence) (evaluate fuel calls scope e) := by
  cases fuel with
  | zero =>
    unfold evaluate Conduct.evaluate
    exact mirrors_throw _
  | succ fuel =>
    cases e with
    | literal value =>
      unfold evaluate Conduct.evaluate
      exact mirrors_pure value
    | group inner =>
      unfold evaluate Conduct.evaluate
      exact evaluate_essence fuel calls scope inner
    | binary op left right =>
      have first := evaluate_essence fuel calls scope left
      have second := evaluate_essence fuel calls scope right
      rw [Expr.essence]
      unfold evaluate Conduct.evaluate
      dsimp only
      cases op.decisive? with
      | some decisive =>
        refine first.bind fun l => (mirrors_ofExcept _).bind fun l => ?_
        by_cases same : l = decisive
        · simp only [if_pos same]
          exact mirrors_pure _
        · simp only [if_neg same]
          exact second.bind fun r => (mirrors_ofExcept _).bind fun r => mirrors_pure _
      | none => exact first.bind fun l => second.bind fun r => mirrors_ofExcept _
    | ref name =>
      unfold evaluate Conduct.evaluate
      exact (mirrors_variableOf scope name).bind fun v => mirrors_read v
    | field receiver name =>
      unfold evaluate Conduct.evaluate
      refine (evaluate_essence fuel calls scope receiver).bind fun r => ?_
      exact (mirrors_fieldOf r name).bind fun v => mirrors_read v
    | call name args =>
      unfold evaluate Conduct.evaluate
      refine (evaluateAll_essence fuel calls scope args).bind fun xs => ?_
      exact (mirrors_functionOf scope name xs.length).bind fun f => invoke_essence fuel calls f xs
    | send receiver name args =>
      unfold evaluate Conduct.evaluate
      refine (evaluateAll_essence fuel calls scope args).bind fun xs => ?_
      refine (evaluate_essence fuel calls scope receiver).bind fun r => ?_
      exact (mirrors_methodOf r name xs.length).bind fun f => invoke_essence fuel calls f (r :: xs)
    | unknown =>
      unfold evaluate Conduct.evaluate
      exact mirrors_throw _
termination_by fuel
decreasing_by all_goals omega

theorem evaluateAll_essence (fuel calls : Nat) (scope : ScopeId) (es : List Expr) :
    Mirrors (evaluateAll fuel calls scope (Expr.essenceAll es)) (evaluateAll fuel calls scope es) := by
  cases fuel with
  | zero =>
    unfold evaluateAll Conduct.evaluateAll
    exact mirrors_throw _
  | succ fuel =>
    cases es with
    | nil =>
      unfold evaluateAll Conduct.evaluateAll
      exact mirrors_pure _
    | cons e es =>
      unfold evaluateAll Conduct.evaluateAll
      refine (evaluate_essence fuel calls scope e).bind fun x => ?_
      exact (evaluateAll_essence fuel calls scope es).bind fun xs => mirrors_pure _
termination_by fuel
decreasing_by all_goals omega

theorem invoke_essence (fuel calls : Nat) (f : Function) (args : List Value) :
    Mirrors (invoke fuel calls f args) (invoke fuel calls f args) := by
  cases fuel with
  | zero =>
    unfold invoke Conduct.invoke
    exact mirrors_throw _
  | succ fuel =>
    unfold invoke Conduct.invoke
    refine mirrors_get fun w => ?_
    rw [World.essence, Table.get?_map]
    cases w.bodies.get? f.number with
    | none => exact mirrors_pure _
    | some body =>
      cases body with
      | native g => exact mirrors_native g args
      | method params statements scope =>
        cases calls with
        | zero => exact mirrors_throw _
        | succ calls =>
          refine (mirrors_enter f scope params args).bind fun entered => ?_
          exact (executeAll_essence fuel calls entered.1 statements).bind fun _ => mirrors_pure _
termination_by fuel
decreasing_by all_goals omega

theorem execute_essence (fuel calls : Nat) (scope : ScopeId) (s : Stmt) :
    Mirrors (execute fuel calls scope s.essence) (execute fuel calls scope s) := by
  cases fuel with
  | zero =>
    unfold execute Conduct.execute
    exact mirrors_throw _
  | succ fuel =>
    cases s with
    | expression e =>
      unfold execute Conduct.execute
      exact (evaluate_essence fuel calls scope e).bind fun _ => mirrors_pure _
    | declaration name typeName initializer =>
      unfold execute Conduct.execute
      cases initializer with
      | none => exact (mirrors_pure _).bind fun x => (mirrors_bind scope name x).bind fun _ => mirrors_pure _
      | some e =>
        refine (evaluate_essence fuel calls scope e).bind fun x => ?_
        exact (mirrors_bind scope name x).bind fun _ => mirrors_pure _
    | assignment target value =>
      have given := evaluate_essence fuel calls scope value
      unfold execute Conduct.execute
      cases target with
      | ref name =>
        refine (mirrors_variableOf scope name).bind fun v => given.bind fun x => ?_
        exact (mirrors_write v x).bind fun _ => mirrors_pure _
      | field receiver name =>
        refine (evaluate_essence fuel calls scope receiver).bind fun r => given.bind fun x => ?_
        exact (mirrors_fieldOf r name).bind fun v => (mirrors_write v x).bind fun _ => mirrors_pure _
      | _ => exact mirrors_throw _
    | conditional condition thenPart elsePart =>
      rw [Stmt.essence]
      unfold execute Conduct.execute
      refine (evaluate_essence fuel calls scope condition).bind fun x => (mirrors_ofExcept _).bind fun c => ?_
      refine (mirrors_child scope).bind fun inner => ?_
      cases c with
      | true => exact executeAll_essence fuel calls inner thenPart
      | false => exact executeAll_essence fuel calls inner elsePart
    | forEach name iterable body =>
      rw [Stmt.essence]
      unfold execute Conduct.execute
      refine (evaluate_essence fuel calls scope iterable).bind fun x => ?_
      cases Items.ofValue? x with
      | some items => exact forEach_essence fuel calls scope name body items
      | none => exact mirrors_throw _
    | whileLoop condition body =>
      rw [Stmt.essence]
      unfold execute Conduct.execute
      exact whileLoop_essence fuel calls scope condition body
    | ret value =>
      unfold execute Conduct.execute
      exact (evaluate_essence fuel calls scope value).bind fun _ => mirrors_pure _
    | unknown =>
      unfold execute Conduct.execute
      exact mirrors_throw _
termination_by fuel
decreasing_by all_goals omega

theorem executeAll_essence (fuel calls : Nat) (scope : ScopeId) (ss : List Stmt) :
    Mirrors (executeAll fuel calls scope (Stmt.essenceAll ss)) (executeAll fuel calls scope ss) := by
  cases fuel with
  | zero =>
    unfold executeAll Conduct.executeAll
    exact mirrors_throw _
  | succ fuel =>
    cases ss with
    | nil =>
      unfold executeAll Conduct.executeAll
      exact mirrors_pure _
    | cons s ss =>
      have first := execute_essence fuel calls scope s
      rw [Stmt.essenceAll]
      unfold executeAll Conduct.executeAll
      by_cases ends : s.returns = true
      · refine first.bindOk fun outcome w w' ran => ?_
        obtain ⟨x, rfl⟩ := execute_of_returns ends ran
        exact mirrors_pure _
      · refine first.bind fun outcome => ?_
        cases outcome with
        | some x => exact mirrors_pure _
        | none =>
          rw [if_neg ends]
          exact executeAll_essence fuel calls scope ss
termination_by fuel
decreasing_by all_goals omega

theorem forEach_essence (fuel calls : Nat) (scope : ScopeId) (name : String) (body : List Stmt) (items : Items) :
    Mirrors (forEach fuel calls scope name (Stmt.essenceAll body) items)
      (forEach fuel calls scope name body items) := by
  cases fuel with
  | zero =>
    unfold forEach Conduct.forEach
    exact mirrors_throw _
  | succ fuel =>
    unfold forEach Conduct.forEach
    cases items.next? with
    | none => exact mirrors_pure _
    | some next =>
      obtain ⟨item, items⟩ := next
      refine (mirrors_child scope).bind fun inner => (mirrors_bind inner name item).bind fun _ => ?_
      refine (executeAll_essence fuel calls inner body).bind fun outcome => ?_
      cases outcome with
      | some x => exact mirrors_pure _
      | none => exact forEach_essence fuel calls scope name body items
termination_by fuel
decreasing_by all_goals omega

theorem whileLoop_essence (fuel calls : Nat) (scope : ScopeId) (condition : Expr) (body : List Stmt) :
    Mirrors (whileLoop fuel calls scope condition.essence (Stmt.essenceAll body))
      (whileLoop fuel calls scope condition body) := by
  cases fuel with
  | zero =>
    unfold whileLoop Conduct.whileLoop
    exact mirrors_throw _
  | succ fuel =>
    unfold whileLoop Conduct.whileLoop
    refine (evaluate_essence fuel calls scope condition).bind fun x => (mirrors_ofExcept _).bind fun c => ?_
    cases c with
    | true =>
      refine (mirrors_child scope).bind fun inner => ?_
      refine (executeAll_essence fuel calls inner body).bind fun outcome => ?_
      cases outcome with
      | some x => exact mirrors_pure _
      | none => exact whileLoop_essence fuel calls scope condition body
    | false => exact mirrors_pure _
termination_by fuel
decreasing_by all_goals omega
end

/-! ## Programs -/

theorem declareField_essence (fuel calls : Nat) (scope : ScopeId) (f : Field) :
    Mirrors (declareField fuel calls scope f.essence) (declareField fuel calls scope f) := by
  unfold declareField Conduct.declareField Conduct.declare Field.essence
  cases f.initializer with
  | none => exact (mirrors_pure _).bind fun x => mirrors_bind scope f.name x
  | some e => exact (evaluate_essence fuel calls scope e).bind fun x => mirrors_bind scope f.name x

theorem declareFields_essence (fuel calls : Nat) (scope : ScopeId) (fs : List Field) :
    Mirrors (declareFields fuel calls scope (fs.map Field.essence)) (declareFields fuel calls scope fs) := by
  induction fs with
  | nil => exact mirrors_pure _
  | cons f fs ih => exact (declareField_essence fuel calls scope f).bind fun _ => ih

theorem declareMethod_essence (scope : ScopeId) (m : Method) :
    Mirrors (declareMethod scope m.essence) (declareMethod scope m) := by
  intro w
  simp only [declareMethod, Method.essence, World.essence]
  cases w.space.declareFunction? scope m.name ((m.params.map Param.name).map fun _ => Ty.any) .any with
  | none => rfl
  | some made =>
    simp only [essenceOf, World.setBody, World.essence, Table.map_set]
    rfl

theorem declareMethods_essence (scope : ScopeId) (ms : List Method) :
    Mirrors (declareMethods scope (ms.map Method.essence)) (declareMethods scope ms) := by
  induction ms with
  | nil => exact mirrors_pure _
  | cons m ms ih => exact (declareMethod_essence scope m).bind fun _ => ih

theorem program_essence (fuel calls : Nat) (outer : ScopeId) (s : Source) :
    Mirrors (program fuel calls outer s.essence) (program fuel calls outer s) := by
  simp only [program, opening, bind_assoc, pure_bind]
  refine (mirrors_child outer).bind fun scope => (declareFields_essence fuel calls scope s.fields).bind fun _ => ?_
  refine (declareMethods_essence scope s.methods).bind fun _ => ?_
  exact (mirrors_functionOf scope "main" 0).bind fun main => invoke_essence fuel calls main []

end Run

end Primer
