import Primer.Text.Blank
import Primer.Text.Escape
import Primer.Text.Quoted
import Primer.Token

/-!
# From text to tokens

At each place the shapes of a lexeme are tried in a fixed order: blanks, decimal, integer, word,
character, string, symbol. The first that fits is taken, as long as it can be. A number takes a minus
in front only where no operand ends just before it; otherwise the minus is a symbol of its own.

Escapes stay in the literal as they are written.
-/

namespace Primer

/-- What a stretch of text can be. -/
inductive Shape where
  | blank
  | decimal
  | integer
  | word
  | character
  | string
  | symbol
deriving DecidableEq

/-- Why no lexeme begins at a place. -/
inductive LexIssue where
  | malformedLiteral
  | unexpectedCharacter (c : Char)
deriving DecidableEq

/-- A place in the text at which no lexeme begins. -/
structure LexError where
  issue : LexIssue
  offset : Nat
deriving DecidableEq

/-- What is said of a place at which no lexeme begins. -/
def LexIssue.message : LexIssue → String
  | malformedLiteral => "Malformed or unterminated literal"
  | unexpectedCharacter c => "Unexpected character " ++ Text.quoted (String.singleton c)

namespace Lexeme

/-- Whether a character begins a word. -/
def isWordStart (c : Char) : Bool :=
  c.isAlpha || c == '_'

/-- Whether a character goes on with a word. -/
def isWordPart (c : Char) : Bool :=
  c.isAlphanum || c == '_'

/-- The length of a whole number without a sign: a zero, or digits that begin with another. -/
def wholeLength? : List Char → Option Nat
  | [] => none
  | c :: cs =>
    if c == '0' then some 1
    else if c.isDigit then some (1 + (cs.takeWhile Char.isDigit).length)
    else none

/-- The length of an integer, with a minus in front or not. -/
def integerLength? : List Char → Option Nat
  | '-' :: cs => (wholeLength? cs).map (1 + ·)
  | cs => wholeLength? cs

/-- The length of a point and at least one digit. -/
def fractionLength? : List Char → Option Nat
  | '.' :: cs =>
    let ds := cs.takeWhile Char.isDigit
    if ds.isEmpty then none else some (1 + ds.length)
  | _ => none

/-- The length of an integer followed by a point and digits. -/
def decimalLength? (cs : List Char) : Option Nat :=
  (integerLength? cs).bind fun n => (fractionLength? (cs.drop n)).map (n + ·)

/-- The length of one character inside a literal between these quotes: an escape, or a character that
is no quote, backslash or end of line. -/
def innerLength? (quote : Char) : List Char → Option Nat
  | [] => none
  | '\\' :: cs =>
    match cs with
    | [] => none
    | c :: _ => if (Text.escapeMeaning? c).isSome then some 2 else none
  | c :: _ => if c == quote || c == '\n' || c == '\r' then none else some 1

/-- The length of a character literal after its first quote. -/
def characterLength? (cs : List Char) : Option Nat :=
  match innerLength? '\x27' cs with
  | none => none
  | some n => if (cs.drop n).head? == some '\x27' then some (n + 1) else none

/-- The length of a string literal after its first quote. -/
def stringLength? : List Char → Option Nat
  | [] => none
  | '\x22' :: _ => some 1
  | '\\' :: c :: cs => if (Text.escapeMeaning? c).isSome then (stringLength? cs).map (2 + ·) else none
  | c :: cs => if c == '\\' || c == '\n' || c == '\r' then none else (stringLength? cs).map (1 + ·)

/-- The length of a symbol. -/
def symbolLength? : List Char → Option Nat
  | [] => none
  | c :: cs =>
    if (c == '<' || c == '>' || c == '=' || c == '!') && cs.head? == some '=' then some 2
    else if c ∈ ['<', '>', '=', '+', '-', '*', '/', '(', ')', ',', '.', ':', ';'] then some 1
    else none

/-- The length of a literal that begins with this quote. -/
def quotedLength? (quote : Char) (inner : List Char → Option Nat) : List Char → Option Nat
  | [] => none
  | c :: cs => if c == quote then (inner cs).map (1 + ·) else none

/-- The length of a run of characters that begins with one of its own. -/
def runLength? (first part : Char → Bool) : List Char → Option Nat
  | [] => none
  | c :: cs => if first c then some (1 + (cs.takeWhile part).length) else none

/-- The shape and the length of the lexeme at the front of a text. -/
def front? (cs : List Char) : Option (Shape × Nat) :=
  ((runLength? Text.isBlank Text.isBlank cs).map (Shape.blank, ·)).orElse fun _ =>
  ((decimalLength? cs).map (Shape.decimal, ·)).orElse fun _ =>
  ((integerLength? cs).map (Shape.integer, ·)).orElse fun _ =>
  ((runLength? isWordStart isWordPart cs).map (Shape.word, ·)).orElse fun _ =>
  ((quotedLength? '\x27' characterLength? cs).map (Shape.character, ·)).orElse fun _ =>
  ((quotedLength? '\x22' stringLength? cs).map (Shape.string, ·)).orElse fun _ =>
  (symbolLength? cs).map (Shape.symbol, ·)

/-- The kind of the token made of a literal of this shape; blanks make none. -/
def kind? (shape : Shape) (literal : String) : Option Kind :=
  match shape with
  | .blank => none
  | .decimal => some .decimal
  | .integer => some .integer
  | .word => some (if literal ∈ reservedWords then .operator else .identifier)
  | .character => some .character
  | .string => some .string
  | .symbol => some .operator

end Lexeme

/-- Why no lexeme begins with this character. -/
def LexIssue.ofChar (c : Char) : LexIssue :=
  if c == '\x27' || c == '\x22' then .malformedLiteral else .unexpectedCharacter c

/-- The tokens of a text that begins at `offset`, after the token `before`. -/
def lexFrom (before : Option Token) (offset : Nat) : List Char → Except LexError (List Token)
  | [] => .ok []
  | c :: cs =>
    match Lexeme.front? (c :: cs) with
    | none => .error { issue := .ofChar c, offset }
    | some (shape, n) =>
      if c == '-' && before.any Token.endsOperand then
        let minus : Token := { kind := .operator, literal := "-", offset }
        (lexFrom (some minus) (offset + 1) cs).map (minus :: ·)
      else
        let literal := String.ofList (c :: cs.take (n - 1))
        let rest := cs.drop (n - 1)
        match Lexeme.kind? shape literal with
        | none => lexFrom before (offset + n) rest
        | some kind =>
          let token : Token := { kind, literal, offset }
          (lexFrom (some token) (offset + n) rest).map (token :: ·)
termination_by cs => cs.length
decreasing_by all_goals simp +zetaDelta only [List.length_cons, List.length_drop]; omega

/-- The tokens of a program text. -/
def lex (text : List Char) : Except LexError (List Token) :=
  lexFrom none 0 text

end Primer
