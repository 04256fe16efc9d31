import Primer.Grammar.Program
import Primer.Proofs.Token.WellFormed

/-!
# The grammar of the language

    source         ::= field* method*
    field          ::= LET name ':' type ('=' expression)? ';'
    method         ::= DEF name '(' (name ':' type (',' name ':' type)*)? ')' (':' type)? DO statement* END
    statement      ::= LET name (':' type)? ('=' expression)? ';'
                     | IF expression DO statement* (ELSE statement*)? END
                     | FOR name IN expression DO statement* END
                     | WHILE expression DO statement* END
                     | RETURN expression ';'
                     | expression ('=' expression)? ';'
    expression     ::= comparison ((AND | OR) comparison)*
    comparison     ::= additive (('<' | '<=' | '>' | '>=' | '==' | '!=') additive)*
    additive       ::= multiplicative (('+' | '-') multiplicative)*
    multiplicative ::= secondary (('*' | '/') secondary)*
    secondary      ::= primary ('.' name ('(' arguments? ')')?)*
    primary        ::= NIL | TRUE | FALSE | integer | decimal | character | string
                     | '(' expression ')' | name ('(' arguments? ')')?

`Derives` has one rule for each alternative, with a symbol of its own for each repeated or optional part.
It relates a symbol, the tokens of a phrase and the tree of the derivation. Nothing here reads tokens in
an order: a derivation is free to split its tokens anywhere.

In the tree, the operations of one level and the fields and calls of a chain nest to the left, and every
phrase carries the offset of its first token.
-/

namespace Primer

namespace Token

/-- Whether a token is this reserved word or symbol. -/
def Is (t : Token) (text : String) : Prop :=
  t.kind = .operator ∧ t.literal = text

/-- Whether a token is a name. -/
def IsName (t : Token) : Prop :=
  t.kind = .identifier ∧ t.WellFormed

/-- The value that a token is a literal of. -/
inductive Denotes (t : Token) : Value → Prop
  | nil (word : t.Is "NIL") : Denotes t .nil
  | true (word : t.Is "TRUE") : Denotes t (.bool true)
  | false (word : t.Is "FALSE") : Denotes t (.bool false)
  | integer {n : Int} (kind : t.kind = .integer) (shape : Lexeme.IntegerOf t.literal.toList n) :
      Denotes t (.int n)
  | decimal {d : Decimal} (kind : t.kind = .decimal) (shape : Lexeme.DecimalOf t.literal.toList d) :
      Denotes t (.dec d)
  | character {c : Char} (kind : t.kind = .character) (shape : Lexeme.CharacterOf t.literal.toList c) :
      Denotes t (.char c)
  | string {cs : List Char} (kind : t.kind = .string) (shape : Lexeme.StringOf t.literal.toList cs) :
      Denotes t (.str (String.ofList cs))

end Token

namespace Grammar

/-- Where the first of some tokens begins. -/
def startOf (ts : List Token) : Nat :=
  (ts.head?.map Token.offset).getD 0

/-- One member of a chain: a field, or a call with arguments. -/
inductive Link where
  | field (name : String)
  | call (name : String) (args : List Expr)

/-- The member that a link takes of a receiver, in a phrase that begins at `start`. -/
def Link.of (start : Nat) (receiver : Expr) : Link → Expr
  | field name => .field receiver name start
  | call name args => .send receiver name args start

/-- A chain of members, nested to the left. -/
def chain (start : Nat) (first : Expr) (links : List Link) : Expr :=
  links.foldl (Link.of start) first

/-- The operations of one level, nested to the left. -/
def grouped (start : Nat) (first : Expr) (operations : List (Operator × Expr)) : Expr :=
  operations.foldl (fun left operation => .binary operation.1 left operation.2 start) first

/-- The symbols of the grammar. -/
inductive Symbol where
  | source
  | fields
  | field
  | methods
  | method
  | params
  | paramList
  | typeClause
  | valueClause
  | statements
  | statement
  | elseClause
  | operation (level : Level)
  | operand (level : Level)
  | operations (level : Level)
  | secondary
  | links
  | primary
  | arguments
  | argumentList

/-- What the phrases of a symbol are read as. -/
abbrev Symbol.Tree : Symbol → Type
  | source => Source
  | fields => List Field
  | field => Field
  | methods => List Method
  | method => Method
  | params => List Param
  | paramList => List Param
  | typeClause => Option String
  | valueClause => Option Expr
  | statements => List Stmt
  | statement => Stmt
  | elseClause => List Stmt
  | operation _ => Expr
  | operand _ => Expr
  | operations _ => List (Operator × Expr)
  | secondary => Expr
  | links => List Link
  | primary => Expr
  | arguments => List Expr
  | argumentList => List Expr

/-- The rule of an expression. -/
abbrev Symbol.expression : Symbol :=
  operation .logical

/-- The tokens of a phrase of a symbol, and the tree of its derivation. -/
inductive Derives : (symbol : Symbol) → List Token → symbol.Tree → Prop
  -- source ::= field* method*
  | source {us vs : List Token} {fs : List Field} {ms : List Method} (fields : Derives .fields us fs)
      (methods : Derives .methods vs ms) : Derives .source (us ++ vs) { fields := fs, methods := ms }
  | noFields : Derives .fields [] []
  | fields {us vs : List Token} {f : Field} {fs : List Field} (first : Derives .field us f)
      (others : Derives .fields vs fs) : Derives .fields (us ++ vs) (f :: fs)
  | noMethods : Derives .methods [] []
  | methods {us vs : List Token} {m : Method} {ms : List Method} (first : Derives .method us m)
      (others : Derives .methods vs ms) : Derives .methods (us ++ vs) (m :: ms)
  -- field ::= LET name ':' type ('=' expression)? ';'
  | field {start name colon type semicolon : Token} {us : List Token} {value : Option Expr}
      (isStart : start.Is "LET") (isName : name.IsName) (isColon : colon.Is ":") (isType : type.IsName)
      (clause : Derives .valueClause us value) (isEnd : semicolon.Is ";") :
      Derives .field ([start, name, colon, type] ++ us ++ [semicolon])
        { name := name.literal, typeName := type.literal, initializer := value, offset := start.offset }
  -- method ::= DEF name '(' (name ':' type (',' name ':' type)*)? ')' (':' type)? DO statement* END
  | method {start name opening closing begin stop : Token} {us vs ws : List Token} {ps : List Param}
      {result : Option String} {body : List Stmt} (isStart : start.Is "DEF") (isName : name.IsName)
      (isOpening : opening.Is "(") (params : Derives .params us ps) (isClosing : closing.Is ")")
      (clause : Derives .typeClause vs result) (isDo : begin.Is "DO")
      (statements : Derives .statements ws body) (isEnd : stop.Is "END") :
      Derives .method ([start, name, opening] ++ us ++ [closing] ++ vs ++ [begin] ++ ws ++ [stop])
        { name := name.literal, params := ps, resultTypeName := result, body, offset := start.offset }
  | noParams : Derives .params [] []
  | params {us : List Token} {ps : List Param} (some : Derives .paramList us ps) : Derives .params us ps
  | lastParam {name colon type : Token} (isName : name.IsName) (isColon : colon.Is ":")
      (isType : type.IsName) :
      Derives .paramList [name, colon, type] [{ name := name.literal, typeName := type.literal }]
  | param {name colon type comma : Token} {us : List Token} {ps : List Param} (isName : name.IsName)
      (isColon : colon.Is ":") (isType : type.IsName) (isComma : comma.Is ",")
      (others : Derives .paramList us ps) :
      Derives .paramList ([name, colon, type, comma] ++ us)
        ({ name := name.literal, typeName := type.literal } :: ps)
  | noType : Derives .typeClause [] none
  | type {colon type : Token} (isColon : colon.Is ":") (isType : type.IsName) :
      Derives .typeClause [colon, type] (some type.literal)
  | noValue : Derives .valueClause [] none
  | value {equals : Token} {us : List Token} {e : Expr} (isEquals : equals.Is "=")
      (expression : Derives .expression us e) : Derives .valueClause (equals :: us) (some e)
  | noStatements : Derives .statements [] []
  | statements {us vs : List Token} {s : Stmt} {ss : List Stmt} (first : Derives .statement us s)
      (others : Derives .statements vs ss) : Derives .statements (us ++ vs) (s :: ss)
  -- statement ::= LET name (':' type)? ('=' expression)? ';'
  | declaration {start name semicolon : Token} {us vs : List Token} {type : Option String}
      {value : Option Expr} (isStart : start.Is "LET") (isName : name.IsName)
      (typeClause : Derives .typeClause us type) (valueClause : Derives .valueClause vs value)
      (isEnd : semicolon.Is ";") :
      Derives .statement ([start, name] ++ us ++ vs ++ [semicolon])
        (.declaration name.literal type value start.offset)
  -- | IF expression DO statement* (ELSE statement*)? END
  | conditional {start begin stop : Token} {us vs ws : List Token} {condition : Expr}
      {thenPart elsePart : List Stmt} (isStart : start.Is "IF") (expression : Derives .expression us condition)
      (isDo : begin.Is "DO") (thenStatements : Derives .statements vs thenPart)
      (elseClause : Derives .elseClause ws elsePart) (isEnd : stop.Is "END") :
      Derives .statement ([start] ++ us ++ [begin] ++ vs ++ ws ++ [stop])
        (.conditional condition thenPart elsePart start.offset)
  | noElse : Derives .elseClause [] []
  | elseClause {word : Token} {us : List Token} {ss : List Stmt} (isWord : word.Is "ELSE")
      (statements : Derives .statements us ss) : Derives .elseClause (word :: us) ss
  -- | FOR name IN expression DO statement* END
  | forEach {start name within begin stop : Token} {us vs : List Token} {iterable : Expr} {body : List Stmt}
      (isStart : start.Is "FOR") (isName : name.IsName) (isIn : within.Is "IN")
      (expression : Derives .expression us iterable) (isDo : begin.Is "DO")
      (statements : Derives .statements vs body) (isEnd : stop.Is "END") :
      Derives .statement ([start, name, within] ++ us ++ [begin] ++ vs ++ [stop])
        (.forEach name.literal iterable body start.offset)
  -- | WHILE expression DO statement* END
  | whileLoop {start begin stop : Token} {us vs : List Token} {condition : Expr} {body : List Stmt}
      (isStart : start.Is "WHILE") (expression : Derives .expression us condition) (isDo : begin.Is "DO")
      (statements : Derives .statements vs body) (isEnd : stop.Is "END") :
      Derives .statement ([start] ++ us ++ [begin] ++ vs ++ [stop])
        (.whileLoop condition body start.offset)
  -- | RETURN expression ';'
  | returning {start semicolon : Token} {us : List Token} {value : Expr} (isStart : start.Is "RETURN")
      (expression : Derives .expression us value) (isEnd : semicolon.Is ";") :
      Derives .statement ([start] ++ us ++ [semicolon]) (.ret value start.offset)
  -- | expression ('=' expression)? ';'
  | expression {semicolon : Token} {us : List Token} {e : Expr} (expression : Derives .expression us e)
      (isEnd : semicolon.Is ";") : Derives .statement (us ++ [semicolon]) (.expression e (startOf us))
  | assignment {equals semicolon : Token} {us vs : List Token} {target value : Expr}
      (left : Derives .expression us target) (isEquals : equals.Is "=")
      (right : Derives .expression vs value) (isEnd : semicolon.Is ";") :
      Derives .statement (us ++ [equals] ++ vs ++ [semicolon]) (.assignment target value (startOf us))
  -- expression ::= comparison ((AND | OR) comparison)*, and so on for each level
  | operation {level : Level} {us vs : List Token} {e : Expr} {operations : List (Operator × Expr)}
      (first : Derives (.operand level) us e) (others : Derives (.operations level) vs operations) :
      Derives (.operation level) (us ++ vs) (grouped (startOf us) e operations)
  | noOperations {level : Level} : Derives (.operations level) [] []
  | operations {level : Level} {symbol : Token} {us vs : List Token} {op : Operator} {e : Expr}
      {operations : List (Operator × Expr)} (listed : op ∈ level.operators) (isSymbol : symbol.Is op.symbol)
      (right : Derives (.operand level) us e) (others : Derives (.operations level) vs operations) :
      Derives (.operations level) ([symbol] ++ us ++ vs) ((op, e) :: operations)
  | comparison {us : List Token} {e : Expr} (operation : Derives (.operation .comparison) us e) :
      Derives (.operand .logical) us e
  | additive {us : List Token} {e : Expr} (operation : Derives (.operation .additive) us e) :
      Derives (.operand .comparison) us e
  | multiplicative {us : List Token} {e : Expr} (operation : Derives (.operation .multiplicative) us e) :
      Derives (.operand .additive) us e
  | factor {us : List Token} {e : Expr} (secondary : Derives .secondary us e) :
      Derives (.operand .multiplicative) us e
  -- secondary ::= primary ('.' name ('(' arguments? ')')?)*
  | secondary {us vs : List Token} {e : Expr} {links : List Link} (first : Derives .primary us e)
      (others : Derives .links vs links) : Derives .secondary (us ++ vs) (chain (startOf us) e links)
  | noLinks : Derives .links [] []
  | fieldLink {point name : Token} {us : List Token} {links : List Link} (isPoint : point.Is ".")
      (isName : name.IsName) (others : Derives .links us links) :
      Derives .links ([point, name] ++ us) (.field name.literal :: links)
  | callLink {point name opening closing : Token} {us vs : List Token} {args : List Expr}
      {links : List Link} (isPoint : point.Is ".") (isName : name.IsName) (isOpening : opening.Is "(")
      (arguments : Derives .arguments us args) (isClosing : closing.Is ")")
      (others : Derives .links vs links) :
      Derives .links ([point, name, opening] ++ us ++ [closing] ++ vs) (.call name.literal args :: links)
  | noArguments : Derives .arguments [] []
  | arguments {us : List Token} {args : List Expr} (some : Derives .argumentList us args) :
      Derives .arguments us args
  | lastArgument {us : List Token} {e : Expr} (expression : Derives .expression us e) :
      Derives .argumentList us [e]
  | argument {comma : Token} {us vs : List Token} {e : Expr} {args : List Expr}
      (expression : Derives .expression us e) (isComma : comma.Is ",")
      (others : Derives .argumentList vs args) : Derives .argumentList (us ++ [comma] ++ vs) (e :: args)
  -- primary ::= NIL | TRUE | FALSE | integer | decimal | character | string
  | literal {t : Token} {value : Value} (denotes : t.Denotes value) :
      Derives .primary [t] (.literal value t.offset)
  -- | '(' expression ')'
  | group {opening closing : Token} {us : List Token} {e : Expr} (isOpening : opening.Is "(")
      (expression : Derives .expression us e) (isClosing : closing.Is ")") :
      Derives .primary ([opening] ++ us ++ [closing]) (.group e opening.offset)
  -- | name ('(' arguments? ')')?
  | name {t : Token} (isName : t.IsName) : Derives .primary [t] (.ref t.literal t.offset)
  | call {t opening closing : Token} {us : List Token} {args : List Expr} (isName : t.IsName)
      (isOpening : opening.Is "(") (arguments : Derives .arguments us args) (isClosing : closing.Is ")") :
      Derives .primary ([t, opening] ++ us ++ [closing]) (.call t.literal args t.offset)

/-! ## Where phrases begin -/

/-- That an expression has the offset of its first token. Other trees are told by their rule. -/
def Symbol.Begins : (symbol : Symbol) → List Token → symbol.Tree → Prop
  | operation _, us, e => us ≠ [] ∧ Expr.offset e = startOf us
  | operand _, us, e => us ≠ [] ∧ Expr.offset e = startOf us
  | secondary, us, e => us ≠ [] ∧ Expr.offset e = startOf us
  | primary, us, e => us ≠ [] ∧ Expr.offset e = startOf us
  | _, _, _ => True

theorem startOf_append {us : List Token} (nonempty : us ≠ []) (vs : List Token) :
    startOf (us ++ vs) = startOf us := by
  cases us with
  | nil => exact absurd rfl nonempty
  | cons u us => rfl

theorem offset_grouped {start : Nat} {first : Expr} (begins : first.offset = start)
    (operations : List (Operator × Expr)) : (grouped start first operations).offset = start := by
  induction operations generalizing first with
  | nil => exact begins
  | cons operation operations ih => exact ih rfl

theorem offset_chain {start : Nat} {first : Expr} (begins : first.offset = start) (links : List Link) :
    (chain start first links).offset = start := by
  induction links generalizing first with
  | nil => exact begins
  | cons link links ih => cases link <;> exact ih rfl

theorem Derives.begins {symbol : Symbol} {us : List Token} {tree : symbol.Tree}
    (derived : Derives symbol us tree) : symbol.Begins us tree := by
  induction derived with
  | operation _ _ ih _ =>
    refine ⟨by simp [ih.1], ?_⟩
    rw [startOf_append ih.1]
    exact offset_grouped ih.2 _
  | secondary _ _ ih _ =>
    refine ⟨by simp [ih.1], ?_⟩
    rw [startOf_append ih.1]
    exact offset_chain ih.2 _
  | comparison _ ih => exact ih
  | additive _ ih => exact ih
  | multiplicative _ ih => exact ih
  | factor _ ih => exact ih
  | literal => exact ⟨by simp, rfl⟩
  | group => exact ⟨by simp, rfl⟩
  | name => exact ⟨by simp, rfl⟩
  | call => exact ⟨by simp, rfl⟩
  | _ => trivial

end Grammar

end Primer
