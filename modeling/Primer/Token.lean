/-!
# Tokens

A token is a stretch of program text with a kind. Reserved words and symbols share the kind
`operator` and are told apart by their text. A pattern asks for a token of a kind or for a token
with a given text, whatever its kind.
-/

namespace Primer

/-- The kinds of token. The lexer makes the first six; a token list from elsewhere may hold others. -/
inductive Kind where
  | identifier
  | integer
  | decimal
  | string
  | character
  | operator
  | other (name : String)
deriving DecidableEq

namespace Kind

/-- The name of a kind. -/
def name : Kind → String
  | identifier => "identifier"
  | integer => "integer"
  | decimal => "decimal"
  | string => "string"
  | character => "character"
  | operator => "operator"
  | other name => name

/-- The kind that the lexer knows by a name. -/
def ofName? : String → Option Kind
  | "identifier" => some identifier
  | "integer" => some integer
  | "decimal" => some decimal
  | "string" => some string
  | "character" => some character
  | "operator" => some operator
  | _ => none

/-- The kind of a name. -/
def ofName (name : String) : Kind :=
  (ofName? name).getD (other name)

end Kind

/-- A kind, the text it was read from, and the offset of its first character. -/
structure Token where
  kind : Kind
  literal : String
  offset : Nat
deriving DecidableEq

/-- The offset just past a token. -/
def Token.stop (t : Token) : Nat :=
  t.offset + t.literal.length

/-- The words that are not identifiers. -/
def reservedWords : List String :=
  ["LET", "DEF", "DO", "END", "IF", "ELSE", "FOR", "IN", "WHILE", "RETURN", "TRUE", "FALSE", "NIL", "AND", "OR"]

/-- Whether an operand may end with this token. A minus right after such a token is a subtraction. -/
def Token.endsOperand (t : Token) : Bool :=
  match t.kind with
  | .operator => t.literal ∈ [")", "TRUE", "FALSE", "NIL"]
  | _ => true

/-- What a reader of tokens may ask for. -/
inductive Pattern where
  | kind (k : Kind)
  | text (s : String)
deriving DecidableEq

namespace Pattern

/-- The pattern of a word: the name of a kind asks for that kind, any other word for that text. -/
def ofWord (word : String) : Pattern :=
  match Kind.ofName? word with
  | some k => kind k
  | none => text word

/-- Whether a token is what the pattern asks for. -/
def accepts : Pattern → Token → Bool
  | kind k, t => t.kind == k
  | text s, t => t.literal == s

/-- Whether the next tokens are what the patterns ask for, one by one. -/
def acceptsAll : List Pattern → List Token → Bool
  | [], _ => true
  | _ :: _, [] => false
  | p :: ps, t :: ts => p.accepts t && acceptsAll ps ts

end Pattern

end Primer
