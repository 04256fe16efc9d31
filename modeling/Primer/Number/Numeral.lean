import Primer.Text.Blank
import Primer.Text.Digit

/-!
# Numerals of integers

Integers are unbounded, but only those of at most 4300 decimal digits have a written form: a longer
one is neither read from text nor turned into text. Reading takes an optional sign, digits of any
script with single underscores between them, and blanks around the whole.
-/

namespace Primer.Numeral

/-- How many decimal digits a written integer may have, its sign not counted. -/
def digitLimit : Nat := 4300

/-- Why a text is not the numeral of an integer. -/
inductive Unreadable where
  | tooLong
  | malformed
deriving DecidableEq

/-- The decimal digits of a natural number. -/
def digits (n : Nat) : List Char :=
  Nat.toDigits 10 n

/-- The number that a sequence of decimal digits stands for. -/
def value (cs : List Char) : Nat :=
  Nat.ofDigitChars 10 cs 0

/-- The sign in front of a numeral, true for minus, and what follows it. -/
def sign : List Char → Bool × List Char
  | '-' :: cs => (true, cs)
  | '+' :: cs => (false, cs)
  | cs => (false, cs)

/-- The digits of a sequence in which single underscores may stand between digits. -/
def ungroup? : List Char → Option (List Char)
  | [] => none
  | [c] => if c.isDigit then some [c] else none
  | c :: '_' :: cs => if c.isDigit then (ungroup? cs).map (c :: ·) else none
  | c :: cs => if c.isDigit then (ungroup? cs).map (c :: ·) else none

/-- Whether a character may stand around a numeral: any blank but the four separators of records in
U+001C to U+001F. -/
def isMargin (c : Char) : Bool :=
  Text.isBlank c && !(0x1C ≤ c.toNat && c.toNat ≤ 0x1F)

/-- The integer that a text is the numeral of. -/
def read (cs : List Char) : Except Unreadable Int :=
  let (negative, body) := sign ((Text.dropEnds isMargin cs).map Text.plainDigit)
  match ungroup? body with
  | none => .error .malformed
  | some ds =>
    if ds.length > digitLimit then .error .tooLong
    else .ok (if negative then -(value ds : Int) else value ds)

/-- The numeral of an integer, of any length. -/
def chars (n : Int) : List Char :=
  if n < 0 then '-' :: digits n.natAbs else digits n.natAbs

/-- The numeral of an integer, unless it is too long to be written. -/
def write? (n : Int) : Option String :=
  if n.natAbs < Nat.pow 10 digitLimit then some (String.ofList (chars n)) else none

end Primer.Numeral
