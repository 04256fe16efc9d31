import Primer.Number.Decimal.Text
import Primer.Text.Quoted
import Primer.Value

/-!
# The text of values

`Value.display?` is what printing shows and what is joined to a string; `Value.inspect?` is how a value
is shown inside a message or an outline, where a text is quoted. Both fail only on an integer too long
to be written.
-/

namespace Primer.Value

mutual
/-- A value as an outline shows it. -/
def inspect? : Value → Option String
  | nil => some "None"
  | bool b => some (if b then "True" else "False")
  | int n => Numeral.write? n
  | dec d => some ("Decimal('" ++ d.text ++ "')")
  | char c => some ("Character(" ++ Text.quoted (String.singleton c) ++ ")")
  | str s => some (Text.quoted s)
  | range lo hi => do
    let bounds := (← Numeral.write? lo) ++ ", " ++ (← Numeral.write? hi.stop)
    if hi.step = 1 then return "range(" ++ bounds ++ ")"
    else return "range(" ++ bounds ++ ", " ++ (← Numeral.write? hi.step) ++ ")"
  | list items => (inspectAll? items).map fun texts => "[" ++ ", ".intercalate texts ++ "]"
  | object _ typeName => some ("<" ++ typeName ++ ">")

/-- Each of some values as an outline shows it. -/
def inspectAll? : List Value → Option (List String)
  | [] => some []
  | v :: vs => do return (← inspect? v) :: (← inspectAll? vs)
end

/-- A value as printing shows it. -/
def display? : Value → Option String
  | nil => some "NIL"
  | bool b => some (if b then "TRUE" else "FALSE")
  | dec d => some d.text
  | char c => some (String.singleton c)
  | str s => some s
  | v => v.inspect?

/-- A value in brief: what it is as an outline shows it, and for an object its type alone. -/
def outline? : Value → Option String
  | object _ typeName => some ("<" ++ typeName ++ ">")
  | v => v.inspect?.map fun text => "<Primitive " ++ text ++ ">"

end Primer.Value
