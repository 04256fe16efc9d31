import Primer.Record

/-!
# Scopes

A space is a forest of frames. A frame binds names of variables, and names of functions together with a
number of arguments; it refuses a second binding of one key but hides what its ancestors bind. A scope
is the number of a frame, and a name is looked up in that frame, then in its parent, and so on. A parent
is always older than its children, so every path of parents ends.

A space also hands out the numbers of new records, so that no two records share one.
-/

namespace Primer

/-- A scope: the number of a frame in a space. -/
abbrev ScopeId := Nat

/-- The bindings of one scope, without those of its ancestors. -/
structure Frame where
  parent : Option ScopeId
  vars : List Variable := []
  funs : List Function := []

namespace Frame

/-- The variable that a frame binds to a name. -/
def findVariable? (f : Frame) (name : String) : Option Variable :=
  f.vars.find? fun v => v.name == name

/-- The function that a frame binds to a name and a number of arguments. -/
def findFunction? (f : Frame) (name : String) (arity : Nat) : Option Function :=
  f.funs.find? fun g => g.name == name && g.arity == arity

end Frame

/-- A forest of frames, and the number of the next record. -/
structure Space where
  frames : Array Frame := #[]
  nextNumber : Nat := 0
  parent_lt : ∀ (i : Nat) (f : Frame) (p : ScopeId), frames[i]? = some f → f.parent = some p → p < i := by
    simp

namespace Space

/-- The frame of a scope. -/
def frame? (s : Space) (scope : ScopeId) : Option Frame :=
  s.frames[scope]?

/-- A space with one more frame, without bindings, whose parent is a frame of the space or none. -/
def push (s : Space) (parent : Option ScopeId) (older : ∀ p, parent = some p → p < s.frames.size) : Space :=
  { s with
    frames := s.frames.push { parent }
    parent_lt := by
      intro i f p found isParent
      rw [Array.getElem?_push] at found
      split at found
      · next last =>
        cases found
        rw [last]
        exact older p isParent
      · exact s.parent_lt i f p found isParent }

/-- A new scope without a parent. -/
def root (s : Space) : Space × ScopeId :=
  (s.push none (by simp), s.frames.size)

/-- A new scope inside another. Inside a scope that does not exist it has no parent. -/
def child (s : Space) (scope : ScopeId) : Space × ScopeId :=
  if h : scope < s.frames.size then
    (s.push (some scope) (by intro p same; cases same; exact h), s.frames.size)
  else s.root

/-- The parent of a scope. -/
def parent? (s : Space) (scope : ScopeId) : Option ScopeId :=
  (s.frame? scope).bind Frame.parent

/-- What the nearest frame on the path from a scope up to its root offers. -/
def findUp {α : Type} (s : Space) (pick : Frame → Option α) (scope : ScopeId) : Option α :=
  match found : s.frames[scope]? with
  | none => none
  | some f =>
    match pick f with
    | some a => some a
    | none =>
      match isParent : f.parent with
      | none => none
      | some p =>
        have _ : p < scope := s.parent_lt scope f p found isParent
        findUp s pick p
termination_by scope

/-- The variable that a name means in a scope. -/
def lookupVariable? (s : Space) (scope : ScopeId) (name : String) : Option Variable :=
  s.findUp (fun f => f.findVariable? name) scope

/-- The function that a name means in a scope when called with so many arguments. -/
def lookupFunction? (s : Space) (scope : ScopeId) (name : String) (arity : Nat) : Option Function :=
  s.findUp (fun f => f.findFunction? name arity) scope

/-- Whether the frame of a scope itself binds a variable of this name. -/
def holdsVariable (s : Space) (scope : ScopeId) (name : String) : Bool :=
  (s.frame? scope).any fun f => (f.findVariable? name).isSome

/-- Whether the frame of a scope itself binds a function of this name and arity. -/
def holdsFunction (s : Space) (scope : ScopeId) (name : String) (arity : Nat) : Bool :=
  (s.frame? scope).any fun f => (f.findFunction? name arity).isSome

/-- A space with one frame changed in what it binds. -/
def modifyFrame (s : Space) (scope : ScopeId) (change : Frame → Frame)
    (keeps : ∀ f, (change f).parent = f.parent) : Space :=
  { s with
    frames := s.frames.modify scope change
    parent_lt := by
      intro i f p found isParent
      rw [Array.getElem?_modify] at found
      split at found
      · obtain ⟨g, isFrame, rfl⟩ := Option.map_eq_some_iff.mp found
        rw [keeps] at isParent
        exact s.parent_lt i g p isFrame isParent
      · exact s.parent_lt i f p found isParent }

/-- Binds a variable in the frame of a scope. -/
def addVariable (s : Space) (scope : ScopeId) (v : Variable) : Space :=
  s.modifyFrame scope (fun f => { f with vars := v :: f.vars }) (fun _ => rfl)

/-- Binds a function in the frame of a scope. -/
def addFunction (s : Space) (scope : ScopeId) (g : Function) : Space :=
  s.modifyFrame scope (fun f => { f with funs := g :: f.funs }) (fun _ => rfl)

/-- Binds a variable in the frame of a scope, unless that frame binds its name already. -/
def defineVariable? (s : Space) (scope : ScopeId) (v : Variable) : Option Space :=
  if s.holdsVariable scope v.name then none else some (s.addVariable scope v)

/-- Binds a function in the frame of a scope, unless that frame binds its name and arity already. -/
def defineFunction? (s : Space) (scope : ScopeId) (g : Function) : Option Space :=
  if s.holdsFunction scope g.name g.arity then none else some (s.addFunction scope g)

/-- A variable that is new to a space. -/
def newVariable (s : Space) (name : String) (type : Ty) (javaName : Option String := none) :
    Space × Variable :=
  ({ s with nextNumber := s.nextNumber + 1 },
    { number := s.nextNumber, name, type, javaName := javaNameOr name javaName })

/-- A function that is new to a space. -/
def newFunction (s : Space) (name : String) (params : List Ty) (result : Ty)
    (javaName : Option String := none) : Space × Function :=
  ({ s with nextNumber := s.nextNumber + 1 },
    { number := s.nextNumber, name, params, result, javaName := javaNameOr name javaName })

/-- A new variable, bound in the frame of a scope. -/
def declareVariable? (s : Space) (scope : ScopeId) (name : String) (type : Ty)
    (javaName : Option String := none) : Option (Space × Variable) :=
  let (s, v) := s.newVariable name type javaName
  (s.defineVariable? scope v).map (·, v)

/-- A new function, bound in the frame of a scope. -/
def declareFunction? (s : Space) (scope : ScopeId) (name : String) (params : List Ty) (result : Ty)
    (javaName : Option String := none) : Option (Space × Function) :=
  let (s, g) := s.newFunction name params result javaName
  (s.defineFunction? scope g).map (·, g)

end Space

end Primer
