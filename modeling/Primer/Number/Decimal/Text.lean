import Primer.Number.Decimal
import Primer.Number.Numeral

/-!
# The text of decimals

A decimal is written plainly when its exponent is not positive and its first digit stands no further
than six places after the point; otherwise in scientific form, with the sign of the exponent always
written. Reading takes either form and keeps every digit, so the exponent is the one that was written.
Digits may be of any script, underscores are passed over, and blanks may stand around the whole.

What is read is a finite number. A text that stands for none, such as `NaN` or `Infinity`, is refused, and any power of
ten is taken. The tokens of a text have neither: a decimal literal is digits, a point and digits.
-/

namespace Primer.Decimal

/-- Digits with a point in front of the last `places` of them, and a zero in front of the point if
nothing else stands there. -/
def plainChars (ds : List Char) (places : Nat) : List Char :=
  if places = 0 then ds
  else
    let filled := List.replicate (places + 1 - ds.length) '0' ++ ds
    filled.take (filled.length - places) ++ '.' :: filled.drop (filled.length - places)

/-- The first digit, a point and the other digits if there are any, and the power of ten. -/
def scientificChars (ds : List Char) (power : Int) : List Char :=
  let mantissa := if ds.length ≤ 1 then ds else ds.take 1 ++ '.' :: ds.drop 1
  mantissa ++ 'E' :: (if power < 0 then '-' else '+') :: Numeral.digits power.natAbs

/-- Whether a decimal is written without a power of ten. -/
def isPlain (d : Decimal) : Bool :=
  d.exponent ≤ 0 && -6 ≤ d.adjusted

/-- A decimal as it is shown. -/
def chars (d : Decimal) : List Char :=
  let ds := Numeral.digits d.coefficient
  let body := if d.isPlain then plainChars ds (-d.exponent).toNat else scientificChars ds d.adjusted
  if d.negative then '-' :: body else body

/-- A decimal as it is shown. -/
def text (d : Decimal) : String :=
  String.ofList d.chars

/-- The power of ten at the end of a decimal's text: nothing, or a letter `e` and an integer. -/
def readPower? : List Char → Option Int
  | [] => some 0
  | c :: cs =>
    if c == 'E' || c == 'e' then
      let (negative, ds) := Numeral.sign cs
      if ds.isEmpty || !ds.all Char.isDigit then none
      else some (if negative then -(Numeral.value ds : Int) else Numeral.value ds)
    else none

/-- What follows the digits before the point: the digits after it, and the rest. -/
def readFraction : List Char → List Char × List Char
  | '.' :: cs => (cs.takeWhile Char.isDigit, cs.dropWhile Char.isDigit)
  | cs => ([], cs)

/-- The decimal that a text shows, in plain or scientific form. The names of values that are no numbers are not read. -/
def read? (cs : List Char) : Option Decimal :=
  let spelled := ((Text.dropEnds Text.isBlank cs).filter (· != '_')).map Text.plainDigit
  let (negative, body) := Numeral.sign spelled
  let whole := body.takeWhile Char.isDigit
  let (fraction, rest) := readFraction (body.dropWhile Char.isDigit)
  if whole.isEmpty && fraction.isEmpty then none
  else (readPower? rest).map fun power =>
    { negative, coefficient := Numeral.value (whole ++ fraction), exponent := power - fraction.length }

end Primer.Decimal
