import Primer.Space

/-!
# Members of types

What the values of a type have: fields, and methods that take the value itself as their first argument.
A later definition of a member replaces an earlier one of the same key.
-/

namespace Primer

/-- The fields and methods of types, the latest definitions first. -/
structure Catalog where
  fields : List (Ty × Variable) := []
  methods : List (Ty × Function) := []

namespace Catalog

/-- The field of a type with this name. -/
def field? (c : Catalog) (t : Ty) (name : String) : Option Variable :=
  (c.fields.find? fun m => m.1 == t && m.2.name == name).map Prod.snd

/-- The method of a type with this name that is called with so many arguments besides the value. -/
def method? (c : Catalog) (t : Ty) (name : String) (arity : Nat) : Option Function :=
  (c.methods.find? fun m => m.1 == t && m.2.name == name && m.2.arity == arity + 1).map Prod.snd

/-- Gives a type a field, with a new record from the space. -/
def defineField (c : Catalog) (s : Space) (t : Ty) (name : String) (type : Ty) : Catalog × Space × Variable :=
  let (s, v) := s.newVariable name type
  ({ c with fields := (t, v) :: c.fields }, s, v)

/-- Gives a type a method, with a new record from the space. The parameters are those besides the
value. -/
def defineMethod (c : Catalog) (s : Space) (t : Ty) (name : String) (params : List Ty) (result : Ty) :
    Catalog × Space × Function :=
  let (s, f) := s.newFunction name (t :: params) result
  ({ c with methods := (t, f) :: c.methods }, s, f)

end Catalog

end Primer
