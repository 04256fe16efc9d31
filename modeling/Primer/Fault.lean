import Primer.Text.Quoted

/-!
# How a run can fail

A fault ends a run. Most belong to a family that is named in the report, with a text; the last three
say that the host asked for something that cannot be done, and have neither.
-/

namespace Primer

/-- A fault of a run. -/
inductive Fault where
  | variableExists (name : String)
  | functionExists (name : String) (arity : Nat)
  | notAssignable
  | wrongKind (expected actual : String)
  | unresolved (name : String) (arity : Option Nat)
  | divisionByZero
  | stackOverflow
  | unwritableInteger
  | unknownOperator
  | unknownPhrase
deriving DecidableEq

namespace Fault

/-- The family of a fault, if it has one. -/
def family? : Fault → Option String
  | variableExists _ => some "PlcRuntimeError"
  | functionExists _ _ => some "PlcRuntimeError"
  | notAssignable => some "PlcRuntimeError"
  | wrongKind _ _ => some "RuntimeTypeError"
  | unresolved _ _ => some "UnresolvedName"
  | divisionByZero => some "DivisionByZero"
  | stackOverflow => some "StackOverflow"
  | unwritableInteger => none
  | unknownOperator => none
  | unknownPhrase => none

/-- The text of a fault. -/
def message : Fault → String
  | variableExists name => Text.quoted name ++ " is already defined in this scope."
  | functionExists name arity => name ++ "/" ++ toString arity ++ " is already defined."
  | notAssignable => "Only a variable or a field can be assigned."
  | wrongKind expected actual => "Expected type " ++ expected ++ ", received " ++ actual ++ "."
  | unresolved name none => "The name " ++ Text.quoted name ++ " is not defined."
  | unresolved name (some arity) =>
    "No function " ++ Text.quoted name ++ " takes " ++ toString arity ++ " argument(s)."
  | divisionByZero => "Cannot divide by zero."
  | stackOverflow => "The program recursed too deeply."
  | unwritableInteger => ""
  | unknownOperator => ""
  | unknownPhrase => ""

end Fault

end Primer
