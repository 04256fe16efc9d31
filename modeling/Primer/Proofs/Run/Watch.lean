import Primer.Proofs.Run.Conduct
import Primer.Proofs.Run.Declarations

/-!
# Runs that are watched

Why a run stopped does not tell what it was at when it did. A watched run is a run that, when it stops, also tells the
moment: which operands it was combining, or which native function it was calling, and with which arguments.

**The law** (`Watch.program_erases`): a watched run without the moment is the run.
-/

namespace Primer

/-- What a run was at when it stopped. -/
inductive Moment where
  | combining (op : Operator) (left right : Value)
  | calling (f : Native) (args : List Value)
  | other

/-- That a value was to be turned to text at a moment: it was to be joined to a string, or printed. -/
inductive Moment.Writes : Moment → Value → Prop
  | before (v : Value) (s : String) : Moment.Writes (.combining .add v (.str s)) v
  | behind (v : Value) (s : String) : Moment.Writes (.combining .add (.str s) v) v
  | printed (args : List Value) : Moment.Writes (.calling Native.print args) (Native.nth args 0)

/-- Why a watched run stopped, and when. -/
structure Stopped where
  stop : Stop
  moment : Moment

/-- A step of a watched run. -/
abbrev WatchedRun := EStateM Stopped World

namespace Watch

variable {α β : Type}

/-- A step that, if it stops, stops at a moment. -/
def during (moment : Moment) (x : Run α) : WatchedRun α := fun w =>
  match x w with
  | .ok a w' => .ok a w'
  | .error stop w' => .error { stop, moment } w'

/-- The steps of a watched run. -/
@[reducible]
def conduct : Conduct Unit Stopped World where
  step := during .other
  variableOf _ scope name _ := during .other (Run.variableOf scope name)
  functionOf _ scope name arity _ := during .other (Run.functionOf scope name arity)
  combine op left right := during (.combining op left right) (Run.ofExcept (left.combine op right))
  native f args := during (.calling f args) (Run.native f args)
  bind _ scope name x _ := during .other (Run.bind scope name x)
  bindItem _ scope name x := during .other (Run.bind scope name x)
  enter f scope params args := during .other (Run.plain.enter f scope params args)
  declareMethod scope m := during .other (Run.declareMethod scope m)
  field _ := ()
  behind _ _ := ()
  elsePart _ _ := ()
  round _ := ()

/-- Runs a program in a new scope inside the given one, and watches it. -/
def program (fuel calls : Nat) (outer : ScopeId) (s : Source) : WatchedRun Value := do
  let scope ← during .other (Run.child outer)
  conduct.source fuel calls scope s

/-- How a watched run ended, without the moment. -/
def forget : EStateM.Result Stopped World α → EStateM.Result Stop World α
  | .ok a w => .ok a w
  | .error stopped w => .error stopped.stop w

/-- That a watched step without the moment is this step. -/
def Erases (y : WatchedRun α) (x : Run α) : Prop :=
  ∀ w, forget (y w) = x w

theorem erases_pure (a : α) : Erases (pure a) (pure a : Run α) :=
  fun _ => rfl

theorem erases_during (moment : Moment) (x : Run α) : Erases (during moment x) x := by
  intro w
  unfold during
  cases x w <;> rfl

theorem Erases.bind {y : WatchedRun α} {x : Run α} {g : α → WatchedRun β} {f : α → Run β} (first : Erases y x)
    (others : ∀ a, Erases (g a) (f a)) : Erases (y >>= g) (x >>= f) := by
  intro w
  have same := first w
  cases ran : y w with
  | error stopped w' =>
    rw [ran] at same
    rw [Conduct.bind_of_eq_error ran, Conduct.bind_of_eq_error same.symm]
    rfl
  | ok a w' =>
    rw [ran] at same
    rw [Conduct.bind_of_eq_ok ran, Conduct.bind_of_eq_ok same.symm]
    exact others a w'

/-- Each watched step without the moment is the step of the run. -/
theorem conduct_erases : Conduct.Alike (fun _ y x => Erases y x) conduct Run.plain where
  pure := erases_pure
  next first others := first.bind others
  throw stop := erases_during .other (throw stop)
  check result := erases_during .other (Run.ofExcept result)
  get := erases_during .other get
  child scope := erases_during .other (Run.child scope)
  read v := erases_during .other (Run.read v)
  write v x := erases_during .other (Run.write v x)
  fieldOf receiver name := erases_during .other (Run.fieldOf receiver name)
  methodOf receiver name arity := erases_during .other (Run.methodOf receiver name arity)
  main scope := erases_during .other (Run.functionOf scope "main" 0)
  variableOf _ _ _ _ _ := erases_during _ _
  functionOf _ _ _ _ _ _ := erases_during _ _
  combine _ _ _ := erases_during _ _
  native _ _ := erases_during _ _
  bind _ _ _ _ _ _ := erases_during _ _
  bindItem _ _ _ _ _ := erases_during _ _
  enter _ _ _ _ _ _ inside := (erases_during _ _).bind fun entered => inside entered.1 _ _

/-- A watched run without the moment is the run. -/
theorem program_erases (fuel calls : Nat) (outer : ScopeId) (s : Source) :
    Erases (program fuel calls outer s) (Run.program fuel calls outer s) := by
  rw [Run.program_eq_source]
  refine (erases_during _ _).bind fun scope => conduct_erases.source (fun m => ?_) fuel calls s
  exact erases_during _ _

end Watch

end Primer
