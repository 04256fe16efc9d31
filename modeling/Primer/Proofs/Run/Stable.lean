import Primer.Proofs.Run.Conduct
import Primer.Proofs.Run.Declarations

/-!
# What all code keeps

Code takes few steps that change the world: it changes the store, opens scopes and binds variables. A property of
worlds is stable if these steps keep it.

**The law** (`source_preserves`): all code keeps a stable property, wherever its run ends, and so does a program if
declaring its methods does.
-/

namespace Primer

/-- That a property of worlds is kept by the steps that code takes. -/
structure World.Stable (I : World → Prop) : Prop where
  store : ∀ {w : World} (store : Store), I w → I { w with store }
  child : ∀ {w : World} (scope : ScopeId), I w → I { w with space := (w.space.child scope).1 }
  bind : ∀ {w : World} (scope : ScopeId) (name : String), I w →
    I { w with space := (w.space.newVariable name .any).1.addVariable scope (w.space.newVariable name .any).2 }

namespace Run

variable {α β : Type} {I : World → Prop}

/-- That a step keeps a property of worlds, however it ends. -/
def Preserving (I : World → Prop) (x : Run α) : Prop :=
  ∀ w, I w → I (last (x w))

theorem Preserving.bind {x : Run α} {f : α → Run β} (first : Preserving I x) (others : ∀ a, Preserving I (f a)) :
    Preserving I (x >>= f) := by
  intro w holds
  have holds' := first w holds
  cases ran : x w with
  | error stop w' =>
    rw [ran] at holds'
    rw [Conduct.bind_of_eq_error ran]
    exact holds'
  | ok a w' =>
    rw [ran] at holds'
    rw [Conduct.bind_of_eq_ok ran]
    exact others a w' holds'

theorem preserving_pure (a : α) : Preserving I (pure a) :=
  fun _ holds => holds

theorem preserving_throw (stop : Stop) : Preserving I (throw stop : Run α) :=
  fun _ holds => holds

theorem preserving_get : Preserving I (get : Run World) :=
  fun _ holds => holds

theorem preserving_ofExcept (result : Except Fault α) : Preserving I (ofExcept result) := by
  cases result with
  | ok a => exact preserving_pure a
  | error fault => exact preserving_throw _

theorem preserving_variableOf (scope : ScopeId) (name : String) : Preserving I (variableOf scope name) := by
  refine preserving_get.bind fun w => ?_
  split
  · exact preserving_pure _
  · exact preserving_throw _

theorem preserving_functionOf (scope : ScopeId) (name : String) (arity : Nat) :
    Preserving I (functionOf scope name arity) := by
  refine preserving_get.bind fun w => ?_
  split
  · exact preserving_pure _
  · exact preserving_throw _

theorem preserving_read (v : Variable) : Preserving I (read v) :=
  preserving_get.bind fun _ => preserving_pure _

theorem preserving_fieldOf (receiver : Value) (name : String) : Preserving I (fieldOf receiver name) :=
  preserving_get.bind fun _ => preserving_ofExcept _

theorem preserving_methodOf (receiver : Value) (name : String) (arity : Nat) :
    Preserving I (methodOf receiver name arity) := by
  unfold methodOf
  split
  · refine preserving_get.bind fun w => ?_
    split
    · exact preserving_pure _
    · exact preserving_throw _
  · exact preserving_throw _

section

variable (stable : World.Stable I)
include stable

theorem preserving_native (f : Native) (args : List Value) : Preserving I (native f args) := by
  rintro ⟨space, store, bodies, methods⟩ holds
  dsimp only [native]
  split
  · exact stable.store _ holds
  · exact stable.store _ holds

theorem preserving_write (v : Variable) (x : Value) : Preserving I (write v x) :=
  fun _ holds => stable.store _ holds

theorem preserving_child (scope : ScopeId) : Preserving I (child scope) :=
  fun _ holds => stable.child scope holds

theorem preserving_bind (scope : ScopeId) (name : String) (x : Value) : Preserving I (Run.bind scope name x) := by
  rintro ⟨space, store, bodies, methods⟩ holds
  dsimp only [Run.bind]
  split
  · exact holds
  · exact stable.store _ (stable.bind scope name holds)

theorem preserving_bindAll (scope : ScopeId) (pairs : List (String × Value)) :
    Preserving I (bindAll scope pairs) := by
  induction pairs with
  | nil => exact preserving_pure ()
  | cons pair pairs ih => exact (preserving_bind stable scope pair.1 pair.2).bind fun _ => ih

end

/-! ## Code and programs -/

/-- The plain conduct keeps a stable property step by step. -/
theorem plain_preserves (stable : World.Stable I) : Conduct.Alike (fun _ x (_ : Run _) => Preserving I x) plain plain where
  pure := preserving_pure
  next first others := first.bind others
  throw := preserving_throw
  check := preserving_ofExcept
  get := preserving_get
  child := preserving_child stable
  read := preserving_read
  write := preserving_write stable
  fieldOf := preserving_fieldOf
  methodOf := preserving_methodOf
  main scope := preserving_functionOf scope "main" 0
  variableOf _ _ scope name _ := preserving_variableOf scope name
  functionOf _ _ scope name arity _ := preserving_functionOf scope name arity
  combine _ _ _ := preserving_ofExcept _
  native := preserving_native stable
  bind _ _ scope name x _ := preserving_bind stable scope name x
  bindItem _ _ scope name x := preserving_bind stable scope name x
  enter f scope params args _ _ inside := by
    refine Preserving.bind ?_ fun entered => inside entered.1 () ()
    refine (preserving_child stable scope).bind fun frame => ?_
    exact (preserving_bindAll stable frame _).bind fun _ => preserving_pure _

/-- What code and the declaration of a method keep, a program that runs in a scope keeps. -/
theorem source_preserves {scope : ScopeId} (stable : World.Stable I)
    (declared : ∀ m, Preserving I (declareMethod scope m)) (fuel calls : Nat) (s : Source) :
    Preserving I (source fuel calls scope s) :=
  (plain_preserves stable).source declared fuel calls s

end Run

end Primer
