import Primer.Fault
import Primer.Tree
import Primer.Value.Text

/-!
# Operations on values

Two values are equal only if they are of one kind; decimals must also agree in scale, ranges and lists
are equal by their elements, objects by identity. Values of an ordered kind are compared within that
kind. Arithmetic is on two integers or two decimals; a plus with a string joins texts.
-/

namespace Primer.Value

/-- Whether two ranges have the same elements. All empty ones do; where there is but one element, the steps do not
matter. -/
def sameRange (lo : Int) (hi : Bound) (lo' : Int) (hi' : Bound) : Bool :=
  let count := hi.count lo
  count == hi'.count lo' && (count == 0 || lo == lo' && (count == 1 || hi.step == hi'.step))

/-- The number that an element of a list stands for, a boolean being zero or one. -/
def number? : Value → Option Decimal
  | bool b => some (Decimal.ofInt (if b then 1 else 0))
  | int n => some (Decimal.ofInt n)
  | dec d => some d
  | _ => none

/-- The text that an element of a list stands for. -/
def text? : Value → Option String
  | char c => some (String.singleton c)
  | str s => some s
  | _ => none

mutual
/-- Whether two elements of lists count as the same: as numbers by value, as texts by their characters,
and otherwise within one kind. -/
def sameElement : Value → Value → Bool
  | nil, nil => true
  | range lo hi, range lo' hi' => sameRange lo hi lo' hi'
  | list xs, list ys => sameElements xs ys
  | object i _, object j _ => i == j
  | a, b =>
    match a.number?, b.number? with
    | some m, some n => m.order n == .eq
    | _, _ =>
      match a.text?, b.text? with
      | some s, some t => s == t
      | _, _ => false

/-- Whether two lists have the same elements in the same order. -/
def sameElements : List Value → List Value → Bool
  | [], [] => true
  | x :: xs, y :: ys => sameElement x y && sameElements xs ys
  | _, _ => false
end

/-- Whether two values are equal. -/
def equal : Value → Value → Bool
  | nil, nil => true
  | bool a, bool b => a == b
  | int a, int b => a == b
  | dec a, dec b => a.order b == .eq && a.exponent == b.exponent
  | char a, char b => a == b
  | str a, str b => a == b
  | range lo hi, range lo' hi' => sameRange lo hi lo' hi'
  | list xs, list ys => sameElements xs ys
  | object i _, object j _ => i == j
  | _, _ => false

/-- Whether the values of this one's kind are ordered. -/
def isOrdered : Value → Bool
  | bool _ => true
  | int _ => true
  | dec _ => true
  | char _ => true
  | str _ => true
  | _ => false

/-- The order of two values of one ordered kind: decimals by value, texts by the code points of their
characters. -/
def order : Value → Value → Except Fault Ordering
  | bool a, bool b => .ok (compare a.toNat b.toNat)
  | int a, int b => .ok (compare a b)
  | dec a, dec b => .ok (a.order b)
  | char a, char b => .ok (compare a b)
  | str a, str b => .ok (compare a b)
  | a, b =>
    if a.isOrdered then .error (.wrongKind a.kindName b.kindName)
    else .error (.wrongKind "Comparable" a.kindName)

/-- The quotient of two integers, truncated toward zero. -/
def quotient (a b : Int) : Except Fault Int :=
  if b = 0 then .error .divisionByZero else .ok (a.tdiv b)

/-- What an operator does with two integers. -/
def integerOperation? : Operator → Option (Int → Int → Except Fault Int)
  | .add => some fun a b => .ok (a + b)
  | .sub => some fun a b => .ok (a - b)
  | .mul => some fun a b => .ok (a * b)
  | .div => some quotient
  | _ => none

/-- The quotient of two decimals, at the scale of the first. -/
def decimalQuotient (a b : Decimal) : Except Fault Decimal :=
  match a.div? b with
  | some q => .ok q
  | none => .error .divisionByZero

/-- What an operator does with two decimals. -/
def decimalOperation? : Operator → Option (Decimal → Decimal → Except Fault Decimal)
  | .add => some fun a b => .ok (a.add b)
  | .sub => some fun a b => .ok (a.sub b)
  | .mul => some fun a b => .ok (a.mul b)
  | .div => some decimalQuotient
  | _ => none

/-- Whether a value is a string. -/
def isStr : Value → Bool
  | str _ => true
  | _ => false

/-- The texts of two values, joined. -/
def join (left right : Value) : Except Fault Value :=
  match left.display?, right.display? with
  | some a, some b => .ok (.str (a ++ b))
  | _, _ => .error .unwritableInteger

/-- An arithmetic operation. The left operand chooses the arithmetic, which must know the operator before
the right operand is looked at. -/
def arithmetic (op : Operator) (left right : Value) : Except Fault Value :=
  if op = .add && (left.isStr || right.isStr) then join left right
  else match left with
    | int a =>
      match integerOperation? op with
      | none => .error .unknownOperator
      | some f =>
        match right with
        | int b => (f a b).map .int
        | _ => .error (.wrongKind "Integer" right.kindName)
    | dec a =>
      match decimalOperation? op with
      | none => .error .unknownOperator
      | some f =>
        match right with
        | dec b => (f a b).map .dec
        | _ => .error (.wrongKind "Decimal" right.kindName)
    | _ => .error (.wrongKind "Integer or Decimal" left.kindName)

/-- What an operator other than AND and OR makes of its operands. -/
def combine (op : Operator) (left right : Value) : Except Fault Value :=
  match op with
  | .eq => .ok (.bool (left.equal right))
  | .ne => .ok (.bool (!left.equal right))
  | .lt => (left.order right).map fun o => .bool o.isLT
  | .le => (left.order right).map fun o => .bool o.isLE
  | .gt => (left.order right).map fun o => .bool o.isGT
  | .ge => (left.order right).map fun o => .bool o.isGE
  | _ => arithmetic op left right

/-- A value that must be a boolean. -/
def toBool : Value → Except Fault Bool
  | bool b => .ok b
  | v => .error (.wrongKind "Boolean" v.kindName)

end Primer.Value
