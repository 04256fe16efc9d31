import Primer.Run.Store
import Primer.Space
import Primer.Tree

/-!
# The world of a run

The scopes, the store, and what functions do. A function of a program closes over the scope it was
declared in; one of the host is native. The methods of objects are functions too, called with the
object in front of the arguments.

A run stops early with a fault, or because its fuel is spent; in both cases the world is as it was left.
-/

namespace Primer

/-- What a function does. -/
inductive Body where
  | native (f : Native)
  | method (params : List String) (statements : List Stmt) (scope : ScopeId)

/-- The state of a run. -/
structure World where
  space : Space := {}
  store : Store := {}
  bodies : Table Body := {}
  methods : List (Nat × Function) := []

/-- Why a run stopped before its end. -/
inductive Stop where
  | fault (f : Fault)
  | outOfFuel
deriving DecidableEq

/-- A step of a run: it changes the world, and gives something or stops. -/
abbrev Run := EStateM Stop World

namespace Run

/-- A result that may be a fault. -/
def ofExcept {α : Type} : Except Fault α → Run α
  | .ok a => pure a
  | .error f => throw (.fault f)

/-- Calls a native function. -/
def native (f : Native) (args : List Value) : Run Value := fun w =>
  match w with
  | ⟨space, store, bodies, methods⟩ =>
    match f args store with
    | .ok v store => .ok v ⟨space, store, bodies, methods⟩
    | .error fault store => .error (.fault fault) ⟨space, store, bodies, methods⟩

/-- A new scope inside another. -/
def child (scope : ScopeId) : Run ScopeId := fun w =>
  match w with
  | ⟨space, store, bodies, methods⟩ =>
    let (space, inner) := space.child scope
    .ok inner ⟨space, store, bodies, methods⟩

/-- Binds a new variable with a value. -/
def bind (scope : ScopeId) (name : String) (x : Value) : Run Unit := fun w =>
  match w with
  | ⟨space, store, bodies, methods⟩ =>
    if space.holdsVariable scope name then
      .error (.fault (.variableExists name)) ⟨space, store, bodies, methods⟩
    else
      let (space, v) := space.newVariable name .any
      .ok () ⟨space.addVariable scope v, store.write v x, bodies, methods⟩

/-- Binds new variables with values, one by one. -/
def bindAll (scope : ScopeId) : List (String × Value) → Run Unit
  | [] => pure ()
  | (name, x) :: rest => do
    bind scope name x
    bindAll scope rest

/-- The variable that a name means in a scope. -/
def variableOf (scope : ScopeId) (name : String) : Run Variable := do
  match (← get).space.lookupVariable? scope name with
  | some v => return v
  | none => throw (.fault (.unresolved name none))

/-- The function that a name means in a scope when called with so many arguments. -/
def functionOf (scope : ScopeId) (name : String) (arity : Nat) : Run Function := do
  match (← get).space.lookupFunction? scope name arity with
  | some f => return f
  | none => throw (.fault (.unresolved name (some arity)))

/-- The value of a variable. -/
def read (v : Variable) : Run Value :=
  return (← get).store.read v

/-- Gives a variable a value. -/
def write (v : Variable) (x : Value) : Run Unit := fun w =>
  match w with
  | ⟨space, store, bodies, methods⟩ => .ok () ⟨space, store.write v x, bodies, methods⟩

/-- The field of a value with this name. -/
def fieldOf (receiver : Value) (name : String) : Run Variable := do
  ofExcept ((← get).store.field receiver name)

/-- The method of a value with this name that is called with so many arguments. -/
def methodOf (receiver : Value) (name : String) (arity : Nat) : Run Function := do
  match receiver with
  | .object number _ =>
    match (← get).methods.find? fun m => m.1 == number && m.2.name == name && m.2.arity == arity + 1 with
    | some m => return m.2
    | none => throw (.fault (.unresolved name (some arity)))
  | _ => throw (.fault (.unresolved name (some arity)))

end Run

namespace World

/-- Gives a function its body. -/
def setBody (w : World) (f : Function) (body : Body) : World :=
  { w with bodies := w.bodies.set f.number body }

/-- A new object without fields and methods. -/
def newObject (w : World) (typeName : String) : World × Value :=
  ({ w with store := { w.store with objects := w.store.objects.push { typeName } } },
    .object w.store.objects.size typeName)

/-- Gives an object a field with a value, in place of one of that name. -/
def defineField (w : World) (number : Nat) (name : String) (x : Value) : World × Variable :=
  let (space, v) := w.space.newVariable name .any
  let objects := w.store.objects.modify number fun o =>
    { o with fields := v :: o.fields.filter fun u => u.name != name }
  ({ w with space, store := { w.store with objects }.write v x }, v)

/-- Gives an object a method, in place of one of that name and arity. The arity does not count the object
itself, which the method gets as its first argument. -/
def defineMethod (w : World) (number : Nat) (name : String) (arity : Nat) (f : Native) : World × Function :=
  let (space, g) := w.space.newFunction name (List.replicate (arity + 1) .any) .any
  let w := { w with space, methods := (number, g) :: w.methods }
  (w.setBody g (.native f), g)

/-- Binds a new variable of the host in a scope; it may be left without a value. -/
def declareVariable? (w : World) (scope : ScopeId) (name : String) (type : Ty) (x : Option Value)
    (javaName : Option String) : Option (World × Variable) := do
  let (space, v) ← w.space.declareVariable? scope name type javaName
  let store := match x with
    | some x => w.store.write v x
    | none => w.store
  return ({ w with space, store }, v)

/-- Binds a new function of the host in a scope. -/
def declareFunction? (w : World) (scope : ScopeId) (name : String) (params : List Ty) (result : Ty)
    (f : Native) (javaName : Option String) : Option (World × Function) := do
  let (space, g) ← w.space.declareFunction? scope name params result javaName
  return ({ w with space }.setBody g (.native f), g)

/-- A new scope without a parent that binds nothing. -/
def bareScope (w : World) : World × ScopeId :=
  let (space, scope) := w.space.root
  ({ w with space }, scope)

/-- A new scope without a parent that binds the function `print`. -/
def rootScope (w : World) : World × ScopeId :=
  let (w, scope) := w.bareScope
  match w.declareFunction? scope "print" [.any] .nil Native.print (some "System.out.println") with
  | some (w, _) => (w, scope)
  | none => (w, scope)

end World

namespace Run

/-- Declares a method of a program, which closes over the scope. -/
def declareMethod (scope : ScopeId) (m : Method) : Run Function := fun w =>
  let params := m.params.map Param.name
  match w.space.declareFunction? scope m.name (params.map fun _ => .any) .any with
  | none => .error (.fault (.functionExists m.name params.length)) w
  | some (space, f) => .ok f ({ w with space }.setBody f (.method params m.body scope))

end Run

end Primer
