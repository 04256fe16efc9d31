import Primer.Text.Blank

/-!
# Lines of a text and pictures of a place in it

A line ends after a line feed, a carriage return, or the two together. A place in a text is shown by
the line it lies on, with its row in front, and a caret below the character.

How a place is drawn is a choice of its own. Nothing that is proved about programs depends on it: whoever reports a place
is given the picture to draw (`Host.draw`), and the one here is the default.
-/

namespace Primer.Text

/-- The offsets just past each line break, counting from `offset`. -/
def lineBreaks (offset : Nat) : List Char → List Nat
  | [] => []
  | '\r' :: '\n' :: cs => (offset + 2) :: lineBreaks (offset + 2) cs
  | c :: cs =>
    if c == '\r' || c == '\n' then (offset + 1) :: lineBreaks (offset + 1) cs
    else lineBreaks (offset + 1) cs

/-- Where each line begins. After a last line break there is one more, empty line. -/
def lineStarts (cs : List Char) : List Nat :=
  0 :: lineBreaks 0 cs

/-- A place in a text: its row counted from one, the column counted from zero, and the line with its
line break. -/
structure Place where
  row : Nat
  column : Nat
  line : List Char

/-- The place of an offset. An offset past the end is on the last row; one before the text is on row
zero, which has no characters. -/
def Place.ofOffset (cs : List Char) (offset : Int) : Place :=
  let starts := lineStarts cs
  let reached := starts.filter fun (start : Nat) => decide ((start : Int) ≤ offset)
  match reached.getLast? with
  | none => { row := 0, column := 0, line := [] }
  | some start =>
    let stop := (starts[reached.length]?).getD cs.length
    { row := reached.length
      column := (offset - start).toNat
      line := (cs.drop start).take (stop - start) }

/-- A row number, right-aligned in six places with at least one blank in front, and a bar. -/
def rowLabel (row : Nat) : List Char :=
  let digits := ' ' :: Nat.toDigits 10 row
  List.replicate (6 - digits.length) ' ' ++ digits ++ [' ', '|']

/-- A blank as wide as the character: tabs stay, so that the caret lines up below them. -/
def blankFor (c : Char) : Char :=
  if c == '\t' then '\t' else ' '

/-- The line of a place and, below it, a caret at the column with a caption. -/
def Place.picture (p : Place) (caption : List Char) : List Char :=
  let label := rowLabel p.row
  label ++ trimRight p.line ++ '\n' :: (label ++ p.line.take p.column).map blankFor ++ '^' :: ' ' :: caption

end Primer.Text
