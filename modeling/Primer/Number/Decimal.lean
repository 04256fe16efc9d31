/-!
# Decimals

A decimal is a sign, a coefficient and a power of ten. Trailing zeros are part of it: `1.50` and
`1.5` have one value and different exponents, and zero has a sign. Sums, differences and products
are exact; a quotient keeps the exponent of the dividend and is rounded to it, a half going to the
even neighbour.

An exponent may be any integer. It is assumed that no run comes to the ends of an implementation whose exponents have
ends, some `10 ^ 18` away from zero, where a product overflows or is rounded to zero: a tenth that is squared over and
over comes there in about sixty steps.
-/

namespace Primer

/-- The number `± coefficient · 10 ^ exponent`. -/
structure Decimal where
  negative : Bool
  coefficient : Nat
  exponent : Int
deriving DecidableEq

namespace Decimal

/-- The coefficient with the sign. A zero has lost its sign here. -/
def signed (d : Decimal) : Int :=
  if d.negative then -(d.coefficient : Int) else d.coefficient

/-- The decimal with this signed coefficient; its zero is positive. -/
def ofSigned (n : Int) (exponent : Int) : Decimal :=
  { negative := n < 0, coefficient := n.natAbs, exponent }

/-- The integer `n` as a decimal. -/
def ofInt (n : Int) : Decimal :=
  ofSigned n 0

/-- The signed coefficient at an exponent that is at most the decimal's own. -/
def scaledTo (exponent : Int) (d : Decimal) : Int :=
  d.signed * Int.pow 10 (d.exponent - exponent).toNat

/-- The decimal with the sign flipped, zeros included. -/
def neg (d : Decimal) : Decimal :=
  { d with negative := !d.negative }

/-- The exact sum, at the smaller exponent. A zero sum is positive unless both addends are negative. -/
def add (a b : Decimal) : Decimal :=
  let exponent := min a.exponent b.exponent
  let total := a.scaledTo exponent + b.scaledTo exponent
  if total = 0 then { negative := a.negative && b.negative, coefficient := 0, exponent }
  else ofSigned total exponent

/-- The exact difference: the sum with the flipped right side. -/
def sub (a b : Decimal) : Decimal :=
  a.add b.neg

/-- The exact product, at the sum of the exponents. Its sign is negative when just one factor's is. -/
def mul (a b : Decimal) : Decimal :=
  { negative := a.negative != b.negative
    coefficient := a.coefficient * b.coefficient
    exponent := a.exponent + b.exponent }

/-- The quotient of two naturals rounded to the nearest, a half going to the even neighbour. -/
def roundDiv (n d : Nat) : Nat :=
  let q := n / d
  let twice := 2 * (n % d)
  if twice < d then q
  else if d < twice then q + 1
  else if q % 2 = 0 then q else q + 1

/-- The quotient at the exponent of the dividend; there is none by a zero of any exponent. Its zero is
positive. -/
def div? (a b : Decimal) : Option Decimal :=
  if b.coefficient = 0 then none
  else
    let n := a.coefficient * Nat.pow 10 (-b.exponent).toNat
    let d := b.coefficient * Nat.pow 10 b.exponent.toNat
    let q := roundDiv n d
    some { negative := a.negative != b.negative && q != 0, coefficient := q, exponent := a.exponent }

/-- The order of the values, whatever the exponents. -/
def order (a b : Decimal) : Ordering :=
  let exponent := min a.exponent b.exponent
  compare (a.scaledTo exponent) (b.scaledTo exponent)

/-- The power of ten of the first digit of the coefficient. -/
def adjusted (d : Decimal) : Int :=
  d.exponent + (Nat.toDigits 10 d.coefficient).length - 1

/-- Whether the nearest double-precision number is infinite: the magnitude is at least the midpoint
between the greatest finite one and the next power of two. -/
def exceedsDouble (d : Decimal) : Bool :=
  if d.coefficient = 0 then false
  else if d.adjusted < 308 then false
  else if 309 < d.adjusted then true
  else (Nat.pow 2 54 - 1) * Nat.pow 2 970 * Nat.pow 10 (-d.exponent).toNat ≤
    d.coefficient * Nat.pow 10 d.exponent.toNat

end Decimal

end Primer
