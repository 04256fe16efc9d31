import Primer.Catalog
import Primer.Check.Complaint
import Primer.Tree
import Primer.Value.Text

/-!
# Checking expressions

Checking an expression looks its names up, finds its type, and settles its slots. The answer is the
tree with the slots that were settled, also when the check ends early, and the type or the reason why
there is none. Nothing but the tree changes.
-/

namespace Primer

namespace Check

/-- The type of a literal. -/
def literalType (value : Value) (offset : Nat) : Except CheckError Ty :=
  match value with
  | .nil => .ok .nil
  | .bool _ => .ok .boolean
  | .char _ => .ok .character
  | .str _ => .ok .string
  | .int n =>
    if n.natAbs < Nat.pow 2 integerBits then .ok .integer
    else match Numeral.write? n with
      | some numeral => .error (.complaint (.wideInteger numeral) offset)
      | none => .error .unwritableInteger
  | .dec d =>
    if d.exceedsDouble then .error (.complaint (.wideDecimal d.text) offset) else .ok .decimal
  | v =>
    match v.inspect? with
    | some outline => .error (.complaint (.untypedLiteral outline) offset)
    | none => .error .unwritableInteger

/-- The type of a binary operation on operands of these types. -/
def operationType (op : Operator) (left right : Ty) (leftOffset rightOffset offset : Nat) :
    Except CheckError Ty :=
  match op with
  | .and | .or => do
    Ty.boolean.require left leftOffset
    Ty.boolean.require right rightOffset
    return .boolean
  | .lt | .le | .gt | .ge | .eq | .ne => do
    Ty.comparable.require left leftOffset
    Ty.comparable.require right rightOffset
    if left = right then return .boolean
    else throw (.complaint (.incomparable left right) offset)
  | .add | .sub | .mul | .div =>
    if op = .add ∧ (left = .string ∨ right = .string) then .ok .string
    else if (left = .integer ∨ left = .decimal) ∧ right = left then .ok left
    else .error (.complaint (.badOperands op.symbol left right) offset)
  | .other symbol => .error (.complaint (.unknownOperator symbol) offset)

/-- Complains at the first argument whose type the parameter in its place does not accept. -/
def requireAll : List Expr → List Ty → List Ty → Except CheckError Unit
  | arg :: args, wanted :: params, given :: types => do
    wanted.require given arg.offset
    requireAll args params types
  | _, _, _ => .ok ()

/-- Settles the type slot of an expression, given as what it would be with the slot filled so. -/
def settleType (phrase : SlottedPhrase) (slot : Option Ty) (t : Ty) (tree : Option Ty → Expr) :
    Expr × Except CheckError Ty :=
  match slot with
  | some _ => (tree slot, .error (.alreadySettled phrase .type))
  | none => (tree (some t), .ok t)

/-- Settles the variable and then the type of a name or a field. -/
def settleVariable (binding : Option Variable) (type : Option Ty) (v : Variable)
    (tree : Option Variable → Option Ty → Expr) : Expr × Except CheckError Ty :=
  match binding with
  | some _ => (tree binding type, .error (.alreadySettled .access .binding))
  | none => settleType .access type v.type (tree (some v))

/-- Settles the function and then the type of a call. -/
def settleFunction (callee : Option Function) (type : Option Ty) (f : Function)
    (tree : Option Function → Option Ty → Expr) : Expr × Except CheckError Ty :=
  match callee with
  | some _ => (tree callee type, .error (.alreadySettled .call .callee))
  | none => settleType .call type f.result (tree (some f))

/-- Whether an expression is a binary operation, the only thing that parentheses may enclose. -/
def isBinary : Expr → Bool
  | .binary .. => true
  | _ => false

mutual
/-- Checks an expression in a scope. -/
def expr (catalog : Catalog) (space : Space) (scope : ScopeId) : Expr → Expr × Except CheckError Ty
  | .literal value offset type =>
    match literalType value offset with
    | .error e => (.literal value offset type, .error e)
    | .ok t => settleType .literal type t (.literal value offset ·)
  | .group inner offset type =>
    if isBinary inner then
      match expr catalog space scope inner with
      | (inner, .error e) => (.group inner offset type, .error e)
      | (inner, .ok t) => settleType .group type t (.group inner offset ·)
    else (.group inner offset type, .error (.complaint .idleGroup offset))
  | .binary op left right offset type =>
    match expr catalog space scope left with
    | (left, .error e) => (.binary op left right offset type, .error e)
    | (left, .ok leftType) =>
      match expr catalog space scope right with
      | (right, .error e) => (.binary op left right offset type, .error e)
      | (right, .ok rightType) =>
        match operationType op leftType rightType left.offset right.offset offset with
        | .error e => (.binary op left right offset type, .error e)
        | .ok t => settleType .binary type t (.binary op left right offset ·)
  | .ref name offset binding type =>
    match space.lookupVariable? scope name with
    | none => (.ref name offset binding type, .error (.complaint (.unknownVariable name) offset))
    | some v => settleVariable binding type v (.ref name offset · ·)
  | .field receiver name offset binding type =>
    match expr catalog space scope receiver with
    | (receiver, .error e) => (.field receiver name offset binding type, .error e)
    | (receiver, .ok t) =>
      match catalog.field? t name with
      | none => (.field receiver name offset binding type, .error (.complaint (.noField t name) offset))
      | some v => settleVariable binding type v (.field receiver name offset · ·)
  | .call name args offset callee type =>
    match exprs catalog space scope args with
    | (args, .error e) => (.call name args offset callee type, .error e)
    | (args, .ok types) =>
      match space.lookupFunction? scope name types.length with
      | none =>
        (.call name args offset callee type,
          .error (.complaint (.unknownFunction name types.length) offset))
      | some f =>
        match requireAll args f.params types with
        | .error e => (.call name args offset callee type, .error e)
        | .ok () => settleFunction callee type f (.call name args offset · ·)
  | .send receiver name args offset callee type =>
    match exprs catalog space scope args with
    | (args, .error e) => (.send receiver name args offset callee type, .error e)
    | (args, .ok types) =>
      match expr catalog space scope receiver with
      | (receiver, .error e) => (.send receiver name args offset callee type, .error e)
      | (receiver, .ok t) =>
        match catalog.method? t name types.length with
        | none =>
          (.send receiver name args offset callee type,
            .error (.complaint (.noMethod t name types.length) offset))
        | some f =>
          match requireAll args (f.params.drop 1) types with
          | .error e => (.send receiver name args offset callee type, .error e)
          | .ok () => settleFunction callee type f (.send receiver name args offset · ·)
  | .unknown offset => (.unknown offset, .error .unknownPhrase)

/-- Checks expressions in a scope from left to right, up to the first with a problem. -/
def exprs (catalog : Catalog) (space : Space) (scope : ScopeId) :
    List Expr → List Expr × Except CheckError (List Ty)
  | [] => ([], .ok [])
  | e :: es =>
    match expr catalog space scope e with
    | (e, .error problem) => (e :: es, .error problem)
    | (e, .ok t) =>
      match exprs catalog space scope es with
      | (es, .error problem) => (e :: es, .error problem)
      | (es, .ok ts) => (e :: es, .ok (t :: ts))
end

end Check

end Primer
