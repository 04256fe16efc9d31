import Primer.Proofs.Run.Conduct
import Primer.Proofs.Run.Declarations

/-!
# Runs that keep a trace

What a run does on the way to its end does not show in the world that it ends in. A traced run is a run
that writes down as events which functions it declares and which it calls, whether or not it comes to its
end. It also knows the home of the code it runs: a field or a method, of the program that was declared in
some scope.

**The law** (`program_erases`): a traced run without its trace is the run. So what is said of all events is
said of all that the run itself does.
-/

namespace Primer

/-- Where code stands: in a field or in a method of the program that was declared in a scope. -/
inductive Home where
  | field (program : ScopeId)
  | method (program : ScopeId)
deriving DecidableEq

/-- The scope that a program was declared in. -/
def Home.program : Home → ScopeId
  | .field program => program
  | .method program => program

/-- What a trace tells of a run: that a method was declared as a function, or that a call in code of some
home came to start a function. Of the call it tells the function in its slot, if any, and the one that was
found, if any. -/
inductive Event where
  | declared (m : Method) (f : Function)
  | called (home : Home) (name : String) (arity : Nat) (callee started : Option Function)

/-- A world, and the events that led there, the latest first. -/
structure Traced where
  world : World
  events : List Event := []

/-- A step of a traced run. -/
abbrev TracedRun := EStateM Stop Traced

namespace TracedRun

/-- A step that is not worth an event. -/
def lift {α : Type} (x : Run α) : TracedRun α := fun t =>
  match x t.world with
  | .ok a w => .ok a { t with world := w }
  | .error stop w => .error stop { t with world := w }

/-- Writes down an event of the world. -/
def tell (e : World → Event) : TracedRun Unit := fun t =>
  .ok () { t with events := e t.world :: t.events }

/-- How a traced run ended, without the events. -/
def forget {α : Type} : EStateM.Result Stop Traced α → EStateM.Result Stop World α
  | .ok a t => .ok a t.world
  | .error stop t => .error stop t.world

/-- Where a traced run ended, however it ended. -/
def last {α : Type} : EStateM.Result Stop Traced α → Traced
  | .ok _ t => t
  | .error _ t => t

/-- That a traced step without its events is this step. -/
def Erases {α : Type} (y : TracedRun α) (x : Run α) : Prop :=
  ∀ t, forget (y t) = x t.world

variable {α β : Type}

theorem erases_pure (a : α) : Erases (pure a) (pure a : Run α) :=
  fun _ => rfl

theorem erases_lift (x : Run α) : Erases (lift x) x := by
  intro t
  unfold lift
  cases x t.world <;> rfl

theorem Erases.bind {y : TracedRun α} {x : Run α} {g : α → TracedRun β} {f : α → Run β} (first : Erases y x)
    (others : ∀ a, Erases (g a) (f a)) : Erases (y >>= g) (x >>= f) := by
  intro t
  have same := first t
  cases ran : y t with
  | error stop t' =>
    rw [ran] at same
    rw [Conduct.bind_of_eq_error ran, Conduct.bind_of_eq_error same.symm]
    rfl
  | ok a t' =>
    rw [ran] at same
    rw [Conduct.bind_of_eq_ok ran, Conduct.bind_of_eq_ok same.symm]
    exact others a t'

/-- An event leaves no trace but in the trace. -/
theorem Erases.tell {y : TracedRun α} {x : Run α} (e : World → Event) (erases : Erases y x) :
    Erases (do tell e; y) x :=
  fun t => erases { t with events := e t.world :: t.events }

end TracedRun

namespace Trace

open TracedRun (lift tell Erases erases_pure erases_lift)

/-- The steps of a traced run: those of the run, with an event for each call by name and for each declaration of a
method. -/
@[reducible]
def conduct : Conduct Home Stop Traced where
  step := lift
  variableOf _ scope name _ := lift (Run.variableOf scope name)
  functionOf home scope name arity callee := do
    tell fun w => .called home name arity callee (w.space.lookupFunction? scope name arity)
    lift (Run.functionOf scope name arity)
  combine op left right := lift (Run.ofExcept (left.combine op right))
  native f args := lift (Run.native f args)
  bind _ scope name x _ := lift (Run.bind scope name x)
  bindItem _ scope name x := lift (Run.bind scope name x)
  enter _ scope params args := do
    let frame ← lift (Run.child scope)
    lift (Run.bindAll frame (params.zip args))
    return (frame, .method scope)
  declareMethod scope m := do
    let f ← lift (Run.declareMethod scope m)
    tell fun _ => .declared m f
    return f
  field scope := .field scope
  behind home _ := home
  elsePart home _ := home
  round home := home

/-- Runs a program in a new scope inside the given one, with a trace. -/
def program (fuel calls : Nat) (outer : ScopeId) (s : Source) : TracedRun Value := do
  let scope ← lift (Run.child outer)
  conduct.source fuel calls scope s

/-- The events of running a program in a world. -/
def events (fuel calls : Nat) (outer : ScopeId) (s : Source) (w : World) : List Event :=
  (TracedRun.last (program fuel calls outer s { world := w })).events

/-- Each traced step without its events is the step of the run. -/
theorem conduct_erases : Conduct.Alike (fun _ y x => Erases y x) conduct Run.plain where
  pure := erases_pure
  next first others := first.bind others
  throw stop := erases_lift (throw stop)
  check result := erases_lift (Run.ofExcept result)
  get := erases_lift get
  child scope := erases_lift (Run.child scope)
  read v := erases_lift (Run.read v)
  write v x := erases_lift (Run.write v x)
  fieldOf receiver name := erases_lift (Run.fieldOf receiver name)
  methodOf receiver name arity := erases_lift (Run.methodOf receiver name arity)
  main scope := erases_lift (Run.functionOf scope "main" 0)
  variableOf _ _ _ _ _ := erases_lift _
  functionOf _ _ _ _ _ _ := (erases_lift _).tell _
  combine _ _ _ := erases_lift _
  native _ _ := erases_lift _
  bind _ _ _ _ _ _ := erases_lift _
  bindItem _ _ _ _ _ := erases_lift _
  enter f scope params args _ _ inside := by
    simp only [bind_assoc, pure_bind]
    exact (erases_lift _).bind fun frame => (erases_lift _).bind fun _ => inside frame _ _

/-- A traced run without its trace is the run. -/
theorem program_erases (fuel calls : Nat) (outer : ScopeId) (s : Source) :
    Erases (program fuel calls outer s) (Run.program fuel calls outer s) := by
  rw [Run.program_eq_source]
  refine (erases_lift _).bind fun scope => conduct_erases.source (fun m => ?_) fuel calls s
  have declared := (erases_lift (Run.declareMethod scope m)).bind fun f => (erases_pure f).tell fun _ => .declared m f
  rwa [bind_pure] at declared

end Trace

end Primer
