import Primer.Grammar.Statement
import Primer.Token.Lexer

/-!
# Reading programs

    source ::= field* method*
    field  ::= LET name ':' type ('=' expression)? ';'
    method ::= DEF name '(' (name ':' type (',' name ':' type)*)? ')' (':' type)? DO statement* END

A problem found in the tokens is reported at the token where it was found or, when none is left, at the
end of the last one.
-/

namespace Primer

namespace Reading

/-- The declaration of a field. -/
def field (ts : List Token) : Except ParseFailure (Parsed ts.length Field) := do
  let ⟨start, rest₁, fewer₁⟩ ← expect "LET" (.word "LET") ts
  let ⟨name, rest₂, fewer₂⟩ ← identifier .identifier rest₁
  let ⟨_, rest₃, fewer₃⟩ ← expect ":" .colonAndType rest₂
  let ⟨typeName, rest₄, fewer₄⟩ ← identifier .typeName rest₃
  let ⟨initializer, rest₅, fewer₅⟩ ← valueClause rest₄
  let ⟨_, rest₆, fewer₆⟩ ← expect ";" .semicolon rest₅
  return ⟨{ name, typeName, initializer, offset := start.offset }, rest₆,
    Nat.lt_trans (Nat.lt_of_lt_of_le fewer₆ (Nat.le_of_lt_succ fewer₅))
      (Nat.lt_trans fewer₄ (Parsed.fewer_of_three fewer₁ fewer₂ fewer₃))⟩

/-- At least one parameter. -/
def paramList (ts : List Token) : Except ParseFailure (Parsed ts.length (List Param)) := do
  let ⟨name, rest₁, fewer₁⟩ ← identifier .identifier ts
  let ⟨_, rest₂, fewer₂⟩ ← expect ":" .colonAndType rest₁
  let ⟨typeName, rest₃, fewer₃⟩ ← identifier .typeName rest₂
  match accept? "," rest₃ with
  | none => return ⟨[{ name, typeName }], rest₃, Parsed.fewer_of_three fewer₁ fewer₂ fewer₃⟩
  | some ⟨_, rest₄, fewer₄⟩ =>
    let ⟨params, rest₅, fewer₅⟩ ← paramList rest₄
    return ⟨{ name, typeName } :: params, rest₅,
      Nat.lt_trans fewer₅ (Nat.lt_trans fewer₄ (Parsed.fewer_of_three fewer₁ fewer₂ fewer₃))⟩
termination_by ts.length

/-- The parameters of a method, up to its closing parenthesis, which is left alone. -/
def params (ts : List Token) : Except ParseFailure (Parsed (ts.length + 1) (List Param)) :=
  match accept? ")" ts with
  | some _ => .ok ⟨[], ts, Parsed.fewer_unread ts⟩
  | none => do
    let ⟨ps, rest, fewer⟩ ← paramList ts
    return ⟨ps, rest, by omega⟩

/-- The definition of a method. -/
def method (ts : List Token) : Except ParseFailure (Parsed ts.length Method) := do
  let ⟨start, rest₁, fewer₁⟩ ← expect "DEF" (.word "DEF") ts
  let ⟨name, rest₂, fewer₂⟩ ← identifier .identifier rest₁
  let ⟨_, rest₃, fewer₃⟩ ← expect "(" .openParen rest₂
  let ⟨params, rest₄, fewer₄⟩ ← params rest₃
  let ⟨_, rest₅, fewer₅⟩ ← expect ")" .commaOrParen rest₄
  let ⟨resultTypeName, rest₆, fewer₆⟩ ← typeClause rest₅
  let ⟨_, rest₇, fewer₇⟩ ← expect "DO" (.word "DO") rest₆
  let ⟨body, rest₈, fewer₈⟩ ← block ["END"] rest₇
  let ⟨_, rest₉, fewer₉⟩ ← expect "END" (.word "END") rest₈
  return ⟨{ name, params, resultTypeName, body, offset := start.offset }, rest₉, by omega⟩

/-- Methods up to the end of the tokens. -/
def methods (ts : List Token) : Except ParseFailure (List Method) :=
  match ts with
  | [] => .ok []
  | t :: rest =>
    if t.literal == "LET" then .error (.unexpected .fieldAfterMethod (t :: rest))
    else if t.literal == "DEF" then do
      let ⟨m, rest₁, _fewer⟩ ← method (t :: rest)
      let ms ← methods rest₁
      return m :: ms
    else .error (.unexpected .fieldOrMethod (t :: rest))
termination_by ts.length
decreasing_by exact _fewer

/-- Fields, then methods, up to the end of the tokens. -/
def source (ts : List Token) : Except ParseFailure Source :=
  match ts with
  | [] => .ok { fields := [], methods := [] }
  | t :: rest =>
    if t.literal == "LET" then do
      let ⟨f, rest₁, _fewer⟩ ← field (t :: rest)
      let s ← source rest₁
      return { s with fields := f :: s.fields }
    else do
      let ms ← methods (t :: rest)
      return { fields := [], methods := ms }
termination_by ts.length
decreasing_by exact _fewer

end Reading

/-- What can be wrong with a text. -/
inductive TextIssue where
  | lexical (issue : LexIssue)
  | grammatical (issue : ParseIssue)
deriving DecidableEq

/-- What is said about a text. -/
def TextIssue.message : TextIssue → String
  | lexical issue => issue.message
  | grammatical issue => issue.message

/-- Something wrong with a text, and where. -/
structure TextError where
  issue : TextIssue
  offset : Nat
deriving DecidableEq

/-- Why a text or its tokens could not be read. The last two are no errors of the text: the number that
it means is beyond what can be read. -/
inductive ReadFailure where
  | error (e : TextError)
  | unreadableInteger (cause : Numeral.Unreadable)
  | unreadableDecimal
deriving DecidableEq

/-- Where a problem lies that was found with these tokens left: at the first of them, or at the end of
all tokens. -/
def offsetOf (tokens rest : List Token) : Nat :=
  match rest with
  | t :: _ => t.offset
  | [] => (tokens.getLast?.map Token.stop).getD 0

/-- The failure of a reading that began with these tokens. -/
def ParseFailure.located (tokens : List Token) : ParseFailure → ReadFailure
  | unexpected issue rest => .error { issue := .grammatical issue, offset := offsetOf tokens rest }
  | unreadableInteger cause => .unreadableInteger cause
  | unreadableDecimal => .unreadableDecimal

/-- The failure of lexing. -/
def LexError.failure (e : LexError) : ReadFailure :=
  .error { issue := .lexical e.issue, offset := e.offset }

/-- The program that some tokens make up. -/
def parseSource (tokens : List Token) : Except ReadFailure Source :=
  (Reading.source tokens).mapError (ParseFailure.located tokens)

/-- The program that a text is. -/
def parseText (text : List Char) : Except ReadFailure Source :=
  match lex text with
  | .error e => .error e.failure
  | .ok tokens => parseSource tokens

end Primer
