import Primer.Number.Decimal

/-!
# Values

What expressions evaluate to. Ranges, lists and objects come only from a host: a program can loop over
the first two, and read, assign and call what an object has.
-/

namespace Primer

/-- Where a range ends, and by which steps it gets there. -/
structure Bound where
  stop : Int
  step : Int := 1
  step_ne_zero : step ≠ 0 := by decide
deriving DecidableEq

namespace Bound

/-- A number alone is a bound that is reached by steps of one. -/
instance : Coe Int Bound := ⟨fun stop => { stop }⟩

/-- Where a number is asked for, a bound is the number it stops at. -/
instance : CoeOut Bound Int := ⟨stop⟩

/-- Whether a number lies before the bound, in the direction of the steps. -/
def admits (b : Bound) (n : Int) : Bool :=
  if 0 < b.step then n < b.stop else b.stop < n

/-- How many elements the range from a number up to the bound has: the distance in steps, rounded up. -/
def count (b : Bound) (start : Int) : Nat :=
  (-(start - b.stop).fdiv b.step).toNat

/-- The elements of the range from a number up to the bound. -/
def elements (b : Bound) (start : Int) : List Int :=
  (List.range (b.count start)).map fun (k : Nat) => start + k * b.step

end Bound

/-- A value. A range holds the integers from `lo` on, step by step, for as long as they lie before the bound
`hi`; an object is known by its number and carries the name of its type. -/
inductive Value where
  | nil
  | bool (b : Bool)
  | int (n : Int)
  | dec (d : Decimal)
  | char (c : Char)
  | str (s : String)
  | range (lo : Int) (hi : Bound)
  | list (items : List Value)
  | object (number : Nat) (typeName : String)

instance : Inhabited Value := ⟨.nil⟩

/-- The name of the kind of a value. -/
def Value.kindName : Value → String
  | nil => "Nil"
  | bool _ => "Boolean"
  | int _ => "Integer"
  | dec _ => "Decimal"
  | char _ => "Character"
  | str _ => "String"
  | range _ _ => "range"
  | list _ => "list"
  | object _ typeName => typeName

end Primer
