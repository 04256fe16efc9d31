import Primer.Check.Expression

/-!
# Checking statements

A statement is checked in a scope. A declaration binds its variable in the frame of that scope; every
block gets a scope of its own. The answer of a check is the space with what was bound, the tree with the
slots that were settled, and whether the check went through; the first two are there also when it did
not.
-/

namespace Primer

/-- The answer of a check: the space and the tree as the check left them, and how it ended. -/
structure Checked (τ : Type) where
  space : Space
  tree : τ
  result : Except CheckError Unit

namespace Checked

/-- The answer with another tree. -/
def map {τ υ : Type} (f : τ → υ) (c : Checked τ) : Checked υ :=
  { space := c.space, tree := f c.tree, result := c.result }

/-- A check that went through. -/
def pass {τ : Type} (space : Space) (tree : τ) : Checked τ :=
  { space, tree, result := .ok () }

/-- A check that ended early. -/
def fail {τ : Type} (space : Space) (tree : τ) (e : CheckError) : Checked τ :=
  { space, tree, result := .error e }

end Checked

namespace Check

/-- Whether an expression is a call, the only thing that may stand alone as a statement. -/
def isCall : Expr → Bool
  | .call .. => true
  | .send .. => true
  | _ => false

/-- Whether an expression names a variable or a field, the only things that can be assigned. -/
def isAccess : Expr → Bool
  | .ref .. => true
  | .field .. => true
  | _ => false

/-- The type that a declaration gives its variable: that of the value if there is one, which must go
where the named type is wanted if one is named. -/
def declaredType (typeName : Option String) (value : Option (Ty × Nat)) (offset : Nat) :
    Option (Except CheckError Ty) :=
  match typeName, value with
  | none, none => none
  | none, some (given, _) => some (.ok given)
  | some name, none => some (Ty.named name offset)
  | some name, some (given, valueOffset) => some do
    let wanted ← Ty.named name offset
    wanted.require given valueOffset
    return given

/-- Binds the variable of a declaration and settles its slot. -/
def bindDeclaration (space : Space) (scope : ScopeId) (name : String) (type : Ty) (offset : Nat)
    (binding : Option Variable) (tree : Option Variable → Stmt) : Checked Stmt :=
  match space.declareVariable? scope name type with
  | none => .fail space (tree binding) (.complaint (.variableExists name) offset)
  | some (space, v) =>
    match binding with
    | some _ => .fail space (tree binding) (.alreadySettled .declaration .binding)
    | none => .pass space (tree (some v))

/-- Checks a declaration. -/
def declaration (catalog : Catalog) (space : Space) (scope : ScopeId) (name : String)
    (typeName : Option String) (initializer : Option Expr) (offset : Nat) (binding : Option Variable) :
    Checked Stmt :=
  match initializer with
  | none =>
    match declaredType typeName none offset with
    | none =>
      .fail space (.declaration name typeName none offset binding)
        (.complaint (.bareDeclaration name) offset)
    | some (.error e) => .fail space (.declaration name typeName none offset binding) e
    | some (.ok type) =>
      bindDeclaration space scope name type offset binding (.declaration name typeName none offset ·)
  | some value =>
    match expr catalog space scope value with
    | (value, .error e) => .fail space (.declaration name typeName (some value) offset binding) e
    | (value, .ok given) =>
      match declaredType typeName (some (given, value.offset)) offset with
      | none =>
        .fail space (.declaration name typeName (some value) offset binding)
          (.complaint (.bareDeclaration name) offset)
      | some (.error e) => .fail space (.declaration name typeName (some value) offset binding) e
      | some (.ok type) =>
        bindDeclaration space scope name type offset binding
          (.declaration name typeName (some value) offset ·)

/-- Checks an assignment. -/
def assignment (catalog : Catalog) (space : Space) (scope : ScopeId) (target value : Expr) (offset : Nat) :
    Checked Stmt :=
  if isAccess target then
    match expr catalog space scope target with
    | (target, .error e) => .fail space (.assignment target value offset) e
    | (target, .ok wanted) =>
      match expr catalog space scope value with
      | (value, .error e) => .fail space (.assignment target value offset) e
      | (value, .ok given) =>
        { space, tree := .assignment target value offset, result := wanted.require given value.offset }
  else .fail space (.assignment target value offset) (.complaint .notAssignable offset)

/-- Checks a condition. -/
def condition (catalog : Catalog) (space : Space) (scope : ScopeId) (e : Expr) :
    Expr × Except CheckError Unit :=
  match expr catalog space scope e with
  | (e, .error problem) => (e, .error problem)
  | (e, .ok given) => (e, Ty.boolean.require given e.offset)

mutual
/-- Checks a statement in a scope. -/
def stmt (catalog : Catalog) (space : Space) (scope : ScopeId) : Stmt → Checked Stmt
  | .expression e offset =>
    if isCall e then
      match expr catalog space scope e with
      | (e, .error problem) => .fail space (.expression e offset) problem
      | (e, .ok _) => .pass space (.expression e offset)
    else .fail space (.expression e offset) (.complaint .loneExpression offset)
  | .declaration name typeName initializer offset binding =>
    declaration catalog space scope name typeName initializer offset binding
  | .assignment target value offset => assignment catalog space scope target value offset
  | .conditional c thenPart elsePart offset =>
    match condition catalog space scope c with
    | (c, .error problem) => .fail space (.conditional c thenPart elsePart offset) problem
    | (c, .ok ()) =>
      if thenPart.isEmpty then
        .fail space (.conditional c thenPart elsePart offset) (.complaint .emptyConditional offset)
      else
        let (space, inner) := space.child scope
        match block catalog space inner thenPart with
        | ⟨space, thenPart, .error problem⟩ =>
          .fail space (.conditional c thenPart elsePart offset) problem
        | ⟨space, thenPart, .ok ()⟩ =>
          let (space, inner) := space.child scope
          (block catalog space inner elsePart).map (.conditional c thenPart · offset)
  | .forEach name iterable body offset =>
    match expr catalog space scope iterable with
    | (iterable, .error problem) => .fail space (.forEach name iterable body offset) problem
    | (iterable, .ok given) =>
      if given ≠ .integerIterable then
        .fail space (.forEach name iterable body offset)
          (.complaint (.notIterable given) iterable.offset)
      else if body.isEmpty then
        .fail space (.forEach name iterable body offset) (.complaint .emptyLoop offset)
      else
        let (space, inner) := space.child scope
        match space.declareVariable? inner name .integer with
        | none => .fail space (.forEach name iterable body offset) (.complaint (.variableExists name) offset)
        | some (space, _) => (block catalog space inner body).map (.forEach name iterable · offset)
  | .whileLoop c body offset =>
    match condition catalog space scope c with
    | (c, .error problem) => .fail space (.whileLoop c body offset) problem
    | (c, .ok ()) =>
      let (space, inner) := space.child scope
      (block catalog space inner body).map (.whileLoop c · offset)
  | .ret value offset =>
    match expr catalog space scope value with
    | (value, .error problem) => .fail space (.ret value offset) problem
    | (value, .ok _) => .pass space (.ret value offset)
  | .unknown offset => .fail space (.unknown offset) .unknownPhrase

/-- Checks statements in a scope one after the other, up to the first with a problem. -/
def block (catalog : Catalog) (space : Space) (scope : ScopeId) : List Stmt → Checked (List Stmt)
  | [] => .pass space []
  | s :: ss =>
    match stmt catalog space scope s with
    | ⟨space, s, .error problem⟩ => .fail space (s :: ss) problem
    | ⟨space, s, .ok ()⟩ => (block catalog space scope ss).map (s :: ·)
end

end Check

end Primer
