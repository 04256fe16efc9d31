import Primer.Number.Decimal.Text
import Primer.Token

/-!
# Reading phrases from tokens

A phrase is read from the front of a token list. The result carries what was read, the tokens that are
left, and a bound on their number: a rule that always takes a token leaves fewer than it was given,
which is also why the rules end. The first problem ends the reading; it remembers the tokens that were
left, and so where it happened.
-/

namespace Primer

/-- What a rule wanted and did not find. -/
inductive ParseIssue where
  | identifier
  | typeName
  | semicolon
  | colonAndType
  | openParen
  | closeParen
  | commaOrParen
  | expression
  | word (w : String)
  | oneOf (words : List String)
  | fieldOrMethod
  | fieldAfterMethod
  | characterLength
deriving DecidableEq

/-- What is said about an issue. -/
def ParseIssue.message : ParseIssue → String
  | identifier => "Expected an identifier"
  | typeName => "Expected a type name"
  | semicolon => "Expected ';'"
  | colonAndType => "Expected ':' and a type name"
  | openParen => "Expected '('"
  | closeParen => "Expected ')'"
  | commaOrParen => "Expected ',' or ')'"
  | expression => "Expected an expression"
  | word w => "Expected " ++ w
  | oneOf words => "Expected " ++ " or ".intercalate words
  | fieldOrMethod => "Expected a field (LET) or a method (DEF)"
  | fieldAfterMethod => "Fields must all come before the first method"
  | characterLength => "A character literal holds exactly one character"

/-- Why a phrase could not be read: an issue, with the tokens left at that point, or a literal that is
no number that can be read. -/
inductive ParseFailure where
  | unexpected (issue : ParseIssue) (rest : List Token)
  | unreadableInteger (cause : Numeral.Unreadable)
  | unreadableDecimal
deriving DecidableEq

/-- What was read, and the tokens left, fewer than `bound`. -/
structure Parsed (bound : Nat) (α : Type) where
  value : α
  rest : List Token
  fewer : rest.length < bound

/-- Tokens that nothing is read from are within the bound of a phrase that may be empty. -/
theorem Parsed.fewer_unread (ts : List Token) : ts.length < ts.length + 1 :=
  Nat.lt_succ_self _

/-- Three phrases, one after the other, leave fewer tokens. -/
theorem Parsed.fewer_of_three {ts ts₁ ts₂ ts₃ : List Token} (fewer₁ : ts₁.length < ts.length)
    (fewer₂ : ts₂.length < ts₁.length) (fewer₃ : ts₃.length < ts₂.length) : ts₃.length < ts.length :=
  Nat.lt_trans fewer₃ (Nat.lt_trans fewer₂ fewer₁)

namespace Reading

/-- The next token, if it has this text. -/
def accept? (text : String) : (ts : List Token) → Option (Parsed ts.length Token)
  | [] => none
  | t :: rest => if t.literal == text then some ⟨t, rest, by simp⟩ else none

/-- The next token, which must have this text. -/
def expect (text : String) (issue : ParseIssue) : (ts : List Token) → Except ParseFailure (Parsed ts.length Token)
  | [] => .error (.unexpected issue [])
  | t :: rest =>
    if t.literal == text then .ok ⟨t, rest, by simp⟩ else .error (.unexpected issue (t :: rest))

/-- The text of the next token, which must be an identifier. -/
def identifier (issue : ParseIssue) : (ts : List Token) → Except ParseFailure (Parsed ts.length String)
  | [] => .error (.unexpected issue [])
  | t :: rest =>
    if t.kind == .identifier then .ok ⟨t.literal, rest, by simp⟩
    else .error (.unexpected issue (t :: rest))

end Reading

end Primer
