import Primer.Text.Escape
import Primer.Tree
import Primer.Value.Text

/-!
# Programs as Java

A checked program is written as a Java class `Main`: its fields, an entry point that ends with what the
program's own main method gives, and its methods. The names of types, variables and functions are those
that checking settled. Statements stand on lines of their own, four blanks further in for each brace
around them.
-/

namespace Primer

/-- Why a phrase cannot be written: a slot is empty, its form is not known, or it holds a value that no
literal stands for. -/
inductive JavaIssue where
  | unsettled
  | unknownPhrase
  | unprintable
deriving DecidableEq

namespace Java

/-- The end of a line and the blanks in front of the next, at a depth of nesting. -/
def newline (depth : Nat) : String :=
  "\n" ++ String.ofList (List.replicate (4 * depth) ' ')

/-- The literal of a value. -/
def literal : Value → Except JavaIssue String
  | .nil => .ok "null"
  | .bool b => .ok (if b then "true" else "false")
  | .char c => .ok (String.ofList (Text.escape '\x27' [c]))
  | .str s => .ok (String.ofList (Text.escape '\x22' s.toList))
  | .int n =>
    match Numeral.write? n with
    | some numeral => .ok numeral
    | none => .error .unprintable
  | .dec d => .ok d.text
  | _ => .error .unprintable

/-- An operator. -/
def operator : Operator → String
  | .and => "&&"
  | .or => "||"
  | op => op.symbol

/-- What checking settled. -/
def settled {α : Type} : Option α → Except JavaIssue α
  | some a => .ok a
  | none => .error .unsettled

mutual
/-- An expression. -/
def expr : Expr → Except JavaIssue String
  | .literal value _ _ => literal value
  | .group inner _ _ => do return "(" ++ (← expr inner) ++ ")"
  | .binary op left right _ _ => do
    let l ← expr left
    let r ← expr right
    return l ++ " " ++ operator op ++ " " ++ r
  | .ref _ _ binding _ => do return (← settled binding).javaName
  | .field receiver _ _ binding _ => do
    let r ← expr receiver
    return r ++ "." ++ (← settled binding).javaName
  | .call _ args _ callee _ => do
    let f ← settled callee
    let xs ← exprs args
    return f.javaName ++ "(" ++ ", ".intercalate xs ++ ")"
  | .send receiver _ args _ callee _ => do
    let r ← expr receiver
    let f ← settled callee
    let xs ← exprs args
    return r ++ "." ++ f.javaName ++ "(" ++ ", ".intercalate xs ++ ")"
  | .unknown _ => .error .unknownPhrase

/-- Each of some expressions. -/
def exprs : List Expr → Except JavaIssue (List String)
  | [] => .ok []
  | e :: es => do
    let x ← expr e
    let xs ← exprs es
    return x :: xs
end

/-- A variable with its type and, if it has one, the value it begins with. -/
def declaration (binding : Option Variable) (initializer : Option Expr) : Except JavaIssue String := do
  let v ← settled binding
  let head := v.type.javaName ++ " " ++ v.javaName
  match initializer with
  | none => return head ++ ";"
  | some e => return head ++ " = " ++ (← expr e) ++ ";"

mutual
/-- A statement that begins at a depth of nesting. -/
def stmt (depth : Nat) : Stmt → Except JavaIssue String
  | .expression e _ => do return (← expr e) ++ ";"
  | .declaration _ _ initializer _ binding => declaration binding initializer
  | .assignment target value _ => do
    let t ← expr target
    let x ← expr value
    return t ++ " = " ++ x ++ ";"
  | .conditional condition thenPart elsePart _ => do
    let c ← expr condition
    let thenText ← block depth thenPart
    let head := "if (" ++ c ++ ") \x7b" ++ thenText ++ "\x7d"
    if elsePart.isEmpty then return head
    else return head ++ " else \x7b" ++ (← block depth elsePart) ++ "\x7d"
  | .forEach name iterable body _ => do
    let x ← expr iterable
    let bodyText ← block depth body
    return "for (int " ++ name ++ " : " ++ x ++ ") \x7b" ++ bodyText ++ "\x7d"
  | .whileLoop condition body _ => do
    let c ← expr condition
    let bodyText ← block depth body
    return "while (" ++ c ++ ") \x7b" ++ bodyText ++ "\x7d"
  | .ret value _ => do return "return " ++ (← expr value) ++ ";"
  | .unknown _ => .error .unknownPhrase

/-- The inside of the braces around statements, from a depth of nesting: each statement on a line of its
own one level further in, and the closing brace on the next line. Without statements nothing. -/
def block (depth : Nat) (ss : List Stmt) : Except JavaIssue String :=
  match ss with
  | [] => .ok ""
  | s :: ss => do
    let first ← stmt (depth + 1) s
    let rest ← lines (depth + 1) ss
    return newline (depth + 1) ++ first ++ rest ++ newline depth

/-- Each statement on a line of its own. -/
def lines (depth : Nat) : List Stmt → Except JavaIssue String
  | [] => .ok ""
  | s :: ss => do
    let text ← stmt depth s
    let rest ← lines depth ss
    return newline depth ++ text ++ rest
end

/-- A field. -/
def field (f : Field) : Except JavaIssue String :=
  declaration f.binding f.initializer

/-- A method that begins at a depth of nesting. -/
def method (depth : Nat) (m : Method) : Except JavaIssue String := do
  let f ← settled m.callee
  let params := (f.params.zip m.params).map fun (type, p) => type.javaName ++ " " ++ p.name
  let body ← block depth m.body
  return f.result.javaName ++ " " ++ f.javaName ++ "(" ++ ", ".intercalate params ++ ") \x7b" ++ body
    ++ "\x7d"

/-- The fields of a class, each on a line of its own, and a line below them. -/
def fields (fs : List Field) : Except JavaIssue String :=
  if fs.isEmpty then .ok ""
  else do
    let texts ← fs.mapM field
    return String.join (texts.map (newline 1 ++ ·)) ++ newline 0

/-- The entry point of the class. -/
def entryPoint : String :=
  newline 1 ++ "public static void main(String[] args) \x7b" ++ newline 2
    ++ "System.exit(new Main().main());" ++ newline 1 ++ "\x7d" ++ newline 0

/-- A whole program. -/
def source (s : Source) : Except JavaIssue String := do
  let fieldText ← fields s.fields
  let methodTexts ← s.methods.mapM (method 1)
  return "public class Main \x7b" ++ newline 0 ++ fieldText ++ entryPoint
    ++ String.join (methodTexts.map fun text => newline 1 ++ text ++ newline 0) ++ newline 0 ++ "\x7d"

/-- A phrase of any sort. -/
def phrase : Phrase → Except JavaIssue String
  | .source s => source s
  | .field f => field f
  | .method m => method 0 m
  | .stmt s => stmt 0 s
  | .expr e => expr e

end Java

end Primer
