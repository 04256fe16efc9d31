import Primer.Text.Printable

/-!
# Quoted text

How a message shows a name or a character: between apostrophes, unless the text holds an apostrophe
and no double quote, in which case between double quotes. The quote in use, the backslash, and the
line feed, carriage return and tab are written with a backslash; any other character that is not
printable is written by its number in lower-case hexadecimal.
-/

namespace Primer.Text

/-- The lower-case hexadecimal digits of a number, filled up with zeros to a width. -/
def hexDigits (width n : Nat) : List Char :=
  let digits := Nat.toDigits 16 n
  List.replicate (width - digits.length) '0' ++ digits

/-- A character written by its number, with two, four or eight digits as it needs. -/
def numberedChar (c : Char) : List Char :=
  let n := c.toNat
  if n < 0x100 then '\\' :: 'x' :: hexDigits 2 n
  else if n < 0x10000 then '\\' :: 'u' :: hexDigits 4 n
  else '\\' :: 'U' :: hexDigits 8 n

/-- One character of a text quoted with `quote`. -/
def quotedChar (quote c : Char) : List Char :=
  if c == quote || c == '\\' then ['\\', c]
  else if c == '\n' then ['\\', 'n']
  else if c == '\r' then ['\\', 'r']
  else if c == '\t' then ['\\', 't']
  else if isPrintable c then [c]
  else numberedChar c

/-- The quote that a text is shown with. -/
def quoteFor (cs : List Char) : Char :=
  if cs.contains '\x27' && !cs.contains '\x22' then '\x22' else '\x27'

/-- The characters of a quoted text, quotes included. -/
def quotedChars (cs : List Char) : List Char :=
  let quote := quoteFor cs
  quote :: cs.flatMap (quotedChar quote) ++ [quote]

/-- A text as messages show it. -/
def quoted (s : String) : String :=
  String.ofList (quotedChars s.toList)

end Primer.Text
