import Primer.Text.Quoted
import Primer.Ty

/-!
# What checking can find wrong

A check ends at its first problem. Most are complaints about the program, with a text and an offset. A
slot that is already settled, or a phrase of no known form, ends it as well: those say that the tree
itself is not fit to be checked.
-/

namespace Primer

/-- A complaint about a program. -/
inductive Complaint where
  | unknownType (name : String)
  | noField (type : Ty) (name : String)
  | noMethod (type : Ty) (name : String) (arity : Int)
  | notAccepted (wanted given : Ty)
  | variableExists (name : String)
  | functionExists (name : String) (arity : Nat)
  | noMain
  | loneExpression
  | bareDeclaration (name : String)
  | notAssignable
  | emptyConditional
  | notIterable (given : Ty)
  | emptyLoop
  | wideInteger (numeral : String)
  | wideDecimal (numeral : String)
  | untypedLiteral (outline : String)
  | idleGroup
  | incomparable (left right : Ty)
  | badOperands (symbol : String) (left right : Ty)
  | unknownOperator (symbol : String)
  | unknownVariable (name : String)
  | unknownFunction (name : String) (arity : Nat)
deriving DecidableEq

/-- How many bits an integer literal may have, its sign not counted. -/
def integerBits : Nat := 32

/-- The text of a complaint. -/
def Complaint.message : Complaint → String
  | unknownType name => "There is no type called " ++ Text.quoted name ++ "."
  | noField type name => "Type " ++ type.name ++ " has no field " ++ Text.quoted name ++ "."
  | noMethod type name arity =>
    "Type " ++ type.name ++ " has no method " ++ Text.quoted name ++ " taking " ++ toString arity
      ++ " argument(s)."
  | notAccepted wanted given => "Expected " ++ wanted.name ++ ", received " ++ given.name ++ "."
  | variableExists name => Text.quoted name ++ " is already defined in this scope."
  | functionExists name arity => name ++ "/" ++ toString arity ++ " is already defined."
  | noMain => "The program needs a main() method."
  | loneExpression => "Only a function call can stand alone as a statement."
  | bareDeclaration name => "Declaring " ++ Text.quoted name ++ " needs a type, a value, or both."
  | notAssignable => "Only a variable or a field can be assigned."
  | emptyConditional => "IF needs at least one statement before ELSE or END."
  | notIterable given => "FOR needs an IntegerIterable, not " ++ given.name ++ "."
  | emptyLoop => "FOR needs at least one statement in its body."
  | wideInteger numeral =>
    "Integer literal " ++ numeral ++ " does not fit in " ++ toString integerBits ++ " bits."
  | wideDecimal numeral => "Decimal literal " ++ numeral ++ " is out of range."
  | untypedLiteral outline => "No type for literal " ++ outline ++ "."
  | idleGroup => "Parentheses may only enclose a binary expression."
  | incomparable left right => "Cannot compare " ++ left.name ++ " with " ++ right.name ++ "."
  | badOperands symbol left right =>
    "Operator " ++ symbol ++ " cannot combine " ++ left.name ++ " with " ++ right.name ++ "."
  | unknownOperator symbol => "Unknown operator " ++ Text.quoted symbol ++ "."
  | unknownVariable name => "The name " ++ Text.quoted name ++ " is not defined."
  | unknownFunction name arity =>
    "No function " ++ Text.quoted name ++ " takes " ++ toString arity ++ " argument(s)."

/-- The slots of a tree. -/
inductive Slot where
  | type
  | binding
  | callee
deriving DecidableEq

/-- The phrases that have slots. -/
inductive SlottedPhrase where
  | literal
  | group
  | binary
  | access
  | call
  | declaration
  | field
  | method
deriving DecidableEq

/-- Why a check ended. -/
inductive CheckError where
  | complaint (c : Complaint) (offset : Nat)
  | alreadySettled (phrase : SlottedPhrase) (slot : Slot)
  | unknownPhrase
  | unwritableInteger
deriving DecidableEq

/-- Complains at an offset unless a value of one type may go where another is wanted. -/
def Ty.require (wanted given : Ty) (offset : Nat) : Except CheckError Unit :=
  if wanted.accepts given then .ok () else .error (.complaint (.notAccepted wanted given) offset)

/-- The type that a program means by a name. -/
def Ty.named (name : String) (offset : Nat) : Except CheckError Ty :=
  match Ty.ofName? name with
  | some t => .ok t
  | none => .error (.complaint (.unknownType name) offset)

end Primer
