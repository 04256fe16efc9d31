/-!
# Blank characters

Program text is laid out with blanks, and a blank is any of the 29 characters that Unicode treats as
white space or as a separator of text. Only the layout of a program depends on them.
-/

namespace Primer.Text

/-- Whether a character is blank: it separates tokens and is no part of any. -/
def isBlank (c : Char) : Bool :=
  let n := c.toNat
  (0x09 ≤ n && n ≤ 0x0D) || (0x1C ≤ n && n ≤ 0x20) || n == 0x85 || n == 0xA0 || n == 0x1680
    || (0x2000 ≤ n && n ≤ 0x200A) || n == 0x2028 || n == 0x2029 || n == 0x202F || n == 0x205F || n == 0x3000

/-- A text without the characters of some sort at its end. -/
def dropEnd (sort : Char → Bool) (cs : List Char) : List Char :=
  (cs.reverse.dropWhile sort).reverse

/-- A line without the blanks at its end. -/
def trimRight (cs : List Char) : List Char :=
  dropEnd isBlank cs

/-- A text without the characters of some sort at its two ends. -/
def dropEnds (sort : Char → Bool) (cs : List Char) : List Char :=
  dropEnd sort (cs.dropWhile sort)

end Primer.Text
