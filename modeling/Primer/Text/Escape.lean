/-!
# Escapes in literals

A character or string literal writes seven characters with a backslash: backspace, line feed,
carriage return, tab, the two quotes and the backslash itself. `unescape` reads them, `escape`
writes those that a literal between the given quotes cannot hold plainly.
-/

namespace Primer.Text

/-- The character that a backslash and this letter stand for. -/
def escapeMeaning? : Char → Option Char
  | 'b' => some '\x08'
  | 'n' => some '\n'
  | 'r' => some '\r'
  | 't' => some '\t'
  | '\x27' => some '\x27'
  | '\x22' => some '\x22'
  | '\\' => some '\\'
  | _ => none

/-- The letter that stands for this character after a backslash. -/
def escapeLetter? : Char → Option Char
  | '\x08' => some 'b'
  | '\n' => some 'n'
  | '\r' => some 'r'
  | '\t' => some 't'
  | '\\' => some '\\'
  | _ => none

/-- The text that the inside of a literal stands for. A backslash before any other letter stands for
itself. -/
def unescape : List Char → List Char
  | [] => []
  | '\\' :: c :: cs =>
    match escapeMeaning? c with
    | some d => d :: unescape cs
    | none => '\\' :: unescape (c :: cs)
  | c :: cs => c :: unescape cs

/-- One character inside a literal between these quotes. -/
def escapedChar (quote c : Char) : List Char :=
  if c == quote then ['\\', c]
  else match escapeLetter? c with
    | some letter => ['\\', letter]
    | none => [c]

/-- A literal between the given quotes that stands for the text. -/
def escape (quote : Char) (cs : List Char) : List Char :=
  quote :: cs.flatMap (escapedChar quote) ++ [quote]

end Primer.Text
