import Primer.Run.Evaluate

/-!
# Running programs

Running a program declares its fields and then its methods in a scope, and calls its main method. What
was declared before a fault stays declared.
-/

namespace Primer

/-- How many calls of methods may be nested, unless the host has it otherwise. It stands for a stack of 10000 frames,
of which a call takes a dozen or so: some 800 calls come out. Where exactly a run overflows depends on the code
between the calls, so the number is a round one, and the laws of runs hold for any in its place. -/
def nestedCalls : Nat := 800

/-- More fuel than any run spends that ends in practice. -/
def ampleFuel : Nat := Nat.pow 2 62

namespace Conduct

variable {κ ε σ : Type} (conduct : Conduct κ ε σ)

/-- Declares a variable with the value of an expression, or nil. -/
def declare (fuel calls : Nat) (place : κ) (scope : ScopeId) (name : String) (initializer : Option Expr)
    (binding : Option Variable) : EStateM ε σ Unit := do
  let x ← match initializer with
    | none => pure .nil
    | some e => conduct.evaluate fuel calls place scope e
  conduct.bind place scope name x binding

/-- Declares a field of a program. -/
def declareField (fuel calls : Nat) (scope : ScopeId) (f : Field) : EStateM ε σ Unit :=
  conduct.declare fuel calls (conduct.field scope) scope f.name f.initializer f.binding

/-- Declares each of the fields. -/
def declareFields (fuel calls : Nat) (scope : ScopeId) : List Field → EStateM ε σ Unit
  | [] => pure ()
  | f :: fs => do
    conduct.declareField fuel calls scope f
    declareFields fuel calls scope fs

/-- Declares each of the methods. -/
def declareMethods (scope : ScopeId) : List Method → EStateM ε σ Unit
  | [] => pure ()
  | m :: ms => do
    let _ ← conduct.declareMethod scope m
    declareMethods scope ms

/-- Runs a program in a scope. -/
def source (fuel calls : Nat) (scope : ScopeId) (s : Source) : EStateM ε σ Value := do
  conduct.declareFields fuel calls scope s.fields
  conduct.declareMethods scope s.methods
  let main ← conduct.step (Run.functionOf scope "main" 0)
  conduct.invoke fuel calls main []

end Conduct

namespace Run

/-- Declares a variable with the value of an expression, or nil. -/
abbrev declare (fuel calls : Nat) (scope : ScopeId) (name : String) (initializer : Option Expr) : Run Unit :=
  plain.declare fuel calls () scope name initializer none

/-- Declares a field of a program. -/
abbrev declareField (fuel calls : Nat) (scope : ScopeId) (f : Field) : Run Unit :=
  plain.declareField fuel calls scope f

/-- Declares each of the fields. -/
abbrev declareFields (fuel calls : Nat) (scope : ScopeId) (fs : List Field) : Run Unit :=
  plain.declareFields fuel calls scope fs

/-- Declares each of the methods. -/
abbrev declareMethods (scope : ScopeId) (ms : List Method) : Run Unit :=
  plain.declareMethods scope ms

/-- Runs a program in a scope. -/
abbrev source (fuel calls : Nat) (scope : ScopeId) (s : Source) : Run Value :=
  plain.source fuel calls scope s

end Run

/-- Runs a program in a new scope inside the given one. -/
def runSource (fuel : Nat) (outer : ScopeId) (s : Source) (calls : Nat := nestedCalls) : Run Value := do
  let scope ← Run.child outer
  Run.source fuel calls scope s

end Primer
