/-!
# Types

The types of the language are nominal: nine that a program can name, and those that a host brings
along. A host type is told apart by its number, so two of them may share a name.
-/

namespace Primer

/-- A type. -/
inductive Ty where
  | any
  | nil
  | comparable
  | boolean
  | integer
  | decimal
  | character
  | string
  | integerIterable
  | host (number : Nat) (label javaLabel : String)
deriving DecidableEq

namespace Ty

/-- The name of a type. -/
def name : Ty → String
  | any => "Any"
  | nil => "Nil"
  | comparable => "Comparable"
  | boolean => "Boolean"
  | integer => "Integer"
  | decimal => "Decimal"
  | character => "Character"
  | string => "String"
  | integerIterable => "IntegerIterable"
  | host _ label _ => label

/-- The name of a type in Java. -/
def javaName : Ty → String
  | any => "Object"
  | nil => "Void"
  | comparable => "Comparable"
  | boolean => "boolean"
  | integer => "int"
  | decimal => "double"
  | character => "char"
  | string => "String"
  | integerIterable => "Iterable<Integer>"
  | host _ _ javaLabel => javaLabel

/-- The types that a program can name. -/
def builtIns : List Ty :=
  [any, nil, comparable, boolean, integer, decimal, character, string, integerIterable]

/-- The type that a program means by a name. -/
def ofName? (name : String) : Option Ty :=
  builtIns.find? fun t => t.name == name

/-- Whether the values of a type are ordered among themselves, so that they go where something
comparable is wanted. -/
def isOrdered (t : Ty) : Bool :=
  t ∈ [integer, decimal, character, string]

/-- Whether a value of the type `value` may go where the type `target` is wanted. -/
def accepts (target value : Ty) : Bool :=
  target == value || target == any || (target == comparable && value.isOrdered)

end Ty

end Primer
