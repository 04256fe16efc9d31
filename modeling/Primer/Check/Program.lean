import Primer.Check.Statement

/-!
# Checking programs

The fields of a program are checked in order and then its methods. A method is bound before its body is
checked, so that it may call itself, and after the types of its parameters and result are known. Of the
statements that end a method only those directly in its body are held against its result type.
-/

namespace Primer

namespace Check

/-- Checks the initializer of a field against its type, if there is one. -/
def initializer (catalog : Catalog) (space : Space) (scope : ScopeId) (wanted : Ty) :
    Option Expr → Option Expr × Except CheckError Unit
  | none => (none, .ok ())
  | some e =>
    match expr catalog space scope e with
    | (e, .error problem) => (some e, .error problem)
    | (e, .ok given) => (some e, wanted.require given e.offset)

/-- Checks a field and binds its variable. -/
def field (catalog : Catalog) (space : Space) (scope : ScopeId) (f : Field) : Checked Field :=
  match Ty.named f.typeName f.offset with
  | .error problem => .fail space f problem
  | .ok wanted =>
    match initializer catalog space scope wanted f.initializer with
    | (value, .error problem) => .fail space { f with initializer := value } problem
    | (value, .ok ()) =>
      let f := { f with initializer := value }
      match space.declareVariable? scope f.name wanted with
      | none => .fail space f (.complaint (.variableExists f.name) f.offset)
      | some (space, v) =>
        match f.binding with
        | some _ => .fail space f (.alreadySettled .field .binding)
        | none => .pass space { f with binding := some v }

/-- The types of the parameters of a method and of its result. -/
def signature (m : Method) : Except CheckError (List Ty × Ty) := do
  let params ← m.params.mapM fun p => Ty.named p.typeName m.offset
  let result ← match m.resultTypeName with
    | none => pure .nil
    | some name => Ty.named name m.offset
  return (params, result)

/-- Binds the parameters of a method in the scope of its body. -/
def bindParams (space : Space) (scope : ScopeId) (offset : Nat) :
    List (String × Ty) → Space × Except CheckError Unit
  | [] => (space, .ok ())
  | (name, type) :: params =>
    match space.declareVariable? scope name type with
    | none => (space, .error (.complaint (.variableExists name) offset))
    | some (space, _) => bindParams space scope offset params

/-- Complains at the first statement directly in a body that ends the method with a value whose type the
result does not accept. A checked value has its type. -/
def requireResults (result : Ty) : List Stmt → Except CheckError Unit
  | [] => .ok ()
  | .ret value offset :: rest => do
    if let some given := value.type? then result.require given offset
    requireResults result rest
  | _ :: rest => requireResults result rest

/-- Checks the parameters and the body of a method whose function is bound. -/
def methodBody (catalog : Catalog) (space : Space) (scope : ScopeId) (params : List Ty) (result : Ty)
    (m : Method) : Checked Method :=
  let (space, inner) := space.child scope
  match bindParams space inner m.offset ((m.params.map Param.name).zip params) with
  | (space, .error problem) => .fail space m problem
  | (space, .ok ()) =>
    match block catalog space inner m.body with
    | ⟨space, body, .error problem⟩ => .fail space { m with body } problem
    | ⟨space, body, .ok ()⟩ =>
      { space, tree := { m with body }
        result := if result = .nil then .ok () else requireResults result body }

/-- Checks a method and binds its function. -/
def method (catalog : Catalog) (space : Space) (scope : ScopeId) (m : Method) : Checked Method :=
  match signature m with
  | .error problem => .fail space m problem
  | .ok (params, result) =>
    match space.declareFunction? scope m.name params result with
    | none => .fail space m (.complaint (.functionExists m.name params.length) m.offset)
    | some (space, f) =>
      match m.callee with
      | some _ => .fail space m (.alreadySettled .method .callee)
      | none => methodBody catalog space scope params result { m with callee := some f }

/-- Checks each of a list in order, up to the first with a problem. -/
def each {τ : Type} (check : Space → τ → Checked τ) (space : Space) : List τ → Checked (List τ)
  | [] => .pass space []
  | x :: xs =>
    match check space x with
    | ⟨space, x, .error problem⟩ => .fail space (x :: xs) problem
    | ⟨space, x, .ok ()⟩ => (each check space xs).map (x :: ·)

/-- Complains unless a program has a main method, without parameters, that gives an integer. -/
def requireMain (space : Space) (scope : ScopeId) : Except CheckError Unit :=
  match space.lookupFunction? scope "main" 0 with
  | none => .error (.complaint .noMain 0)
  | some main => Ty.integer.require main.result 0

/-- Checks a program in a scope. -/
def source (catalog : Catalog) (needsMain : Bool) (space : Space) (scope : ScopeId) (s : Source) :
    Checked Source :=
  match each (fun space f => field catalog space scope f) space s.fields with
  | ⟨space, fields, .error problem⟩ => .fail space { s with fields } problem
  | ⟨space, fields, .ok ()⟩ =>
    match each (fun space m => method catalog space scope m) space s.methods with
    | ⟨space, methods, .error problem⟩ => .fail space { fields, methods } problem
    | ⟨space, methods, .ok ()⟩ =>
      { space, tree := { fields, methods }
        result := if needsMain then requireMain space scope else .ok () }

/-- Checks a phrase of any sort in a scope. -/
def phrase (catalog : Catalog) (needsMain : Bool) (space : Space) (scope : ScopeId) : Phrase → Checked Phrase
  | .source s => (source catalog needsMain space scope s).map .source
  | .field f => (field catalog space scope f).map .field
  | .method m => (method catalog space scope m).map .method
  | .stmt s => (stmt catalog space scope s).map .stmt
  | .expr e =>
    match expr catalog space scope e with
    | (e, .error problem) => .fail space (.expr e) problem
    | (e, .ok _) => .pass space (.expr e)

end Check

/-- Checks a program in a new scope inside the given one. -/
def checkSource (catalog : Catalog) (needsMain : Bool) (space : Space) (outer : ScopeId) (s : Source) :
    Checked Source :=
  let (space, scope) := space.child outer
  Check.source catalog needsMain space scope s

end Primer
