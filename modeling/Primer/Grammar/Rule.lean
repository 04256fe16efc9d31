import Primer.Grammar.Program

/-!
# The rules of the grammar by name

Every rule can be read on its own from the front of a token list. A rule other than that of a whole
program leaves alone the tokens after its phrase.
-/

namespace Primer

/-- The rules of the grammar. -/
inductive Rule where
  | source
  | field
  | method
  | statement
  | declaration
  | assignment
  | conditional
  | forEach
  | whileLoop
  | returning
  | operation (level : Level)
  | secondary
  | primary
deriving DecidableEq

namespace Rule

/-- The rule of an expression. -/
def expression : Rule := operation .logical

/-- The rule with this name. -/
def ofName? : String → Option Rule
  | "source" => some source
  | "field" => some field
  | "method" => some method
  | "statement" => some statement
  | "declaration" => some declaration
  | "assignment" => some assignment
  | "if" => some conditional
  | "for" => some forEach
  | "while" => some whileLoop
  | "return" => some returning
  | "expression" => some expression
  | "logical" => some (operation .logical)
  | "comparison" => some (operation .comparison)
  | "additive" => some (operation .additive)
  | "multiplicative" => some (operation .multiplicative)
  | "secondary" => some secondary
  | "primary" => some primary
  | _ => none

/-- A phrase with the number of tokens it was read from. -/
def counted {bound : Nat} {α : Type} (tokens : List Token) (phrase : α → Phrase)
    (r : Except ParseFailure (Parsed bound α)) : Except ParseFailure (Phrase × Nat) :=
  r.map fun p => (phrase p.value, tokens.length - p.rest.length)

/-- The phrase that a rule reads from the front of tokens, and how many tokens it takes. -/
def read (rule : Rule) (tokens : List Token) : Except ParseFailure (Phrase × Nat) :=
  match rule with
  | source => (Reading.source tokens).map fun s => (.source s, tokens.length)
  | field => counted tokens .field (Reading.field tokens)
  | method => counted tokens .method (Reading.method tokens)
  | statement => counted tokens .stmt (Reading.statement tokens)
  | declaration => counted tokens .stmt (Reading.declaration tokens)
  | assignment => counted tokens .stmt (Reading.assignment tokens)
  | conditional => counted tokens .stmt (Reading.conditional tokens)
  | forEach => counted tokens .stmt (Reading.forEach tokens)
  | whileLoop => counted tokens .stmt (Reading.whileLoop tokens)
  | returning => counted tokens .stmt (Reading.returning tokens)
  | operation level => counted tokens .expr (Reading.operation level tokens)
  | secondary => counted tokens .expr (Reading.secondary tokens)
  | primary => counted tokens .expr (Reading.primary tokens)

/-- The phrase that a rule reads from tokens, with its failures located in them. -/
def parse (rule : Rule) (tokens : List Token) : Except ReadFailure (Phrase × Nat) :=
  (rule.read tokens).mapError (ParseFailure.located tokens)

end Rule

/-- The tokens of a text, with failures as of any reading. -/
def tokensOf (text : List Char) : Except ReadFailure (List Token) :=
  (lex text).mapError LexError.failure

end Primer
