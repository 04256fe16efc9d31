import Primer.Ty

/-!
# Variables and functions

The records that names are bound to. A record has a number, by which two of one name are told apart;
what a variable holds and what a function does is kept elsewhere, by that number.
-/

namespace Primer

/-- The name that Java knows a record by: the given one, or else its own. -/
def javaNameOr (name : String) (given : Option String) : String :=
  match given with
  | some java => if java.isEmpty then name else java
  | none => name

/-- A variable: a named place for values of a type. -/
structure Variable where
  number : Nat
  name : String
  type : Ty
  javaName : String
deriving DecidableEq

/-- A function: called by its name and the number of its arguments. For a method of a type the first
parameter is the object it is called on. -/
structure Function where
  number : Nat
  name : String
  params : List Ty
  result : Ty
  javaName : String
deriving DecidableEq

/-- How many arguments a function takes. -/
def Function.arity (f : Function) : Nat :=
  f.params.length

/-- A variable in brief. -/
def Variable.outline (v : Variable) : String :=
  "<Variable " ++ v.name ++ ":" ++ v.type.name ++ ">"

/-- A function in brief. -/
def Function.outline (f : Function) : String :=
  "<Function " ++ f.name ++ "/" ++ toString f.arity ++ ">"

end Primer
