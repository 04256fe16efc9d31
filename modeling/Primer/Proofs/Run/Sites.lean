import Primer.Proofs.Run.Declarations
import Primer.Proofs.Tree.Variables

/-!
# Runs that know where variables come from

A run makes a new variable each time that it comes to a declaration, and finds it again by name. A sited run
also writes down, for every variable of the program that it makes, the site it was made at: the variable that
the check has for the same declaration. That one is in the slot of a field or a statement; a parameter or a
loop has none, but its number is known from where it stands. Variables that were there before the program are
their own sites, and those of other programs' code have none.

A sited run may look up the variables that names of the program mean in two ways. Either it goes by the name,
but is `astray` unless the variable was made at the site in the slot of the name (`Look.byName`). Or it goes by
the slot alone, up to the nearest variable that was made at that site (`Look.bySite`).
-/

namespace Primer

/-- A world, the sites of its variables, and for each method of the program, by the number of the function that
the run declared it as, the function that the check has for it. -/
structure Sited where
  world : World
  sites : Variable → Option Variable
  owners : Nat → Option Function

/-- Why a sited run stopped before its end. -/
inductive Halt where
  | stop (s : Stop)
  | astray

/-- A step of a sited run. -/
abbrev SitedRun := EStateM Halt Sited

/-- How a sited run finds the variable that a name in a scope means, given what is in its slot. -/
abbrev Look := ScopeId → String → Option Variable → SitedRun Variable

namespace Sited

variable {α β : Type}

/-- A world in which a program is about to be run. -/
def start (w : World) : Sited where
  world := w
  sites v := if v.number < w.space.nextNumber then some v else none
  owners _ := none

/-- How a sited run ended, unless it was astray. -/
def outcome? : EStateM.Result Halt Sited α → Option (EStateM.Result Stop World α)
  | .ok a t => some (.ok a t.world)
  | .error (.stop stop) t => some (.error stop t.world)
  | .error .astray _ => none

/-- The nearest variable around a scope that was made at a site. -/
def lookupSite? (t : Sited) (scope : ScopeId) (site : Variable) : Option Variable :=
  t.world.space.findUp (fun f => f.vars.find? fun v => t.sites v == some site) scope

/-- A step that makes no variable of the program. -/
def lift (x : Run α) : SitedRun α := fun t =>
  match x t.world with
  | .ok a w => .ok a { t with world := w }
  | .error stop w => .error (.stop stop) { t with world := w }

/-- Binds a new variable with a value, made at a site if it is one of the program. -/
def bind (scope : ScopeId) (name : String) (x : Value) (site : Option Variable) : SitedRun Unit := fun t =>
  let made := (t.world.space.newVariable name .any).2
  lift (Run.bind scope name x) { t with sites := fun v => if v = made then site else t.sites v }

/-- Binds new variables with values, one by one. -/
def bindAll (scope : ScopeId) : List (String × Value) → List Variable → SitedRun Unit
  | [], _ => pure ()
  | (name, x) :: rest, sites => do
    bind scope name x sites.head?
    bindAll scope rest sites.tail

/-- Declares a method of the program. -/
def declareMethod (scope : ScopeId) (m : Method) : SitedRun Function := do
  let f ← lift (Run.declareMethod scope m)
  modify fun t => { t with owners := fun n => if n = f.number then m.callee else t.owners n }
  return f

end Sited

/-! ## Two ways to look up -/

namespace Look

open Sited (lift)

/-- Goes by the name, and is astray unless the variable was made at the site in the slot. -/
def byName : Look := fun scope name binding => do
  let v ← lift (Run.variableOf scope name)
  if binding.isSome ∧ (← get).sites v = binding then return v else throw .astray

/-- Goes by the site in the slot, and is astray if there is none, or no variable made there. -/
def bySite : Look := fun scope _ binding => do
  match binding.bind ((← get).lookupSite? scope) with
  | some v => return v
  | none => throw .astray

end Look

/-! ## The steps of a sited run -/

namespace Sited

section

variable (look : Look) (own : ScopeId)

/-- The variable that a name means: in code of the program it is looked up as said, and in code of others by
name. -/
def access (mine : Bool) (scope : ScopeId) (name : String) (binding : Option Variable) : SitedRun Variable :=
  if mine then look scope name binding else lift (Run.variableOf scope name)

/-- The function that the check has for a method about to be run, if it is one of the program. -/
def ownerOf (f : Function) (scope : ScopeId) : SitedRun (Option Function) := do
  if scope = own then
    match (← get).owners f.number with
    | some owner => return some owner
    | none => throw .astray
  else return none

/-- The steps of a sited run of the program in a scope. Code of the program stands at a place, given as the number of
the first variable that is made there or behind it; code of others stands at none. The variables of a method are
numbered after its own number. -/
@[reducible]
def conduct : Conduct (Option Nat) Halt Sited where
  step := lift
  variableOf place scope name binding := access look place.isSome scope name binding
  functionOf _ scope name arity _ := lift (Run.functionOf scope name arity)
  combine op left right := lift (Run.ofExcept (left.combine op right))
  native f args := lift (Run.native f args)
  bind place scope name x binding := bind scope name x (if place.isSome then binding else none)
  bindItem place scope name x := bind scope name x (place.map (Variable.ofLoop · name))
  enter f scope params args := do
    let owner ← ownerOf own f scope
    let frame ← lift (Run.child scope)
    bindAll frame (params.zip args) (owner.elim [] fun o => o.paramVariables params)
    return (frame, owner.map fun o => o.bodyNumber params)
  declareMethod := declareMethod
  field _ := some 0
  behind place s := place.map (· + s.count)
  elsePart place thenPart := place.map (· + Stmt.countAll thenPart)
  round place := place.map (· + 1)

end

/-- Runs a program in a new scope inside the given one. -/
def program (look : Look) (fuel calls : Nat) (outer : ScopeId) (s : Source) : SitedRun Value := do
  let scope ← lift (Run.child outer)
  (conduct look scope).source fuel calls scope s

end Sited

end Primer
