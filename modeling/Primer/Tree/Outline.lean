import Primer.Tree
import Primer.Value.Text

/-!
# Trees in brief

One line that shows how an expression was read: what is grouped with what, and what is a name, a field
or a call. It fails only on an integer too long to be written.
-/

namespace Primer

/-- An expression in brief. A call shows how many arguments it has and not what they are. -/
def Expr.outline? : Expr → Option String
  | literal value _ _ => value.inspect?.map fun text => "<Literal " ++ text ++ ">"
  | group inner _ _ => inner.outline?.map fun text => "(" ++ text ++ ")"
  | binary op left right _ _ => do
    return "<" ++ (← left.outline?) ++ " " ++ op.symbol ++ " " ++ (← right.outline?) ++ ">"
  | ref name _ _ _ => some ("<ref:" ++ name ++ ">")
  | field receiver name _ _ _ => receiver.outline?.map fun text => "<" ++ text ++ "." ++ name ++ ">"
  | call name args _ _ _ => some ("<call:" ++ name ++ "/" ++ toString args.length ++ ">")
  | send _ name args _ _ _ => some ("<call:" ++ name ++ "/" ++ toString args.length ++ ">")
  | unknown _ => some "<Expr>"

/-- A field in brief. -/
def Field.outline (f : Field) : String :=
  "<LET " ++ f.name ++ ":" ++ f.typeName ++ ">"

/-- A method in brief. -/
def Method.outline (m : Method) : String :=
  "<DEF " ++ m.name ++ "/" ++ toString m.params.length ++ ">"

/-- The fields of a program in brief, then its methods. -/
def Source.outlines (s : Source) : List String :=
  s.fields.map Field.outline ++ s.methods.map Method.outline

end Primer
