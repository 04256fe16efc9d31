import Primer.Check.Program
import Primer.Proofs.Space.Inside
import Primer.Proofs.Tree.Parts

/-!
# What a checked tree is

The judgements of this module say of a tree with settled slots that it is fit to be run, one rule for each
form of phrase, without reference to how it was checked. A context holds what is known at a place of a
program: the variables of the scopes around it, the functions bound so far, and what names mean around the
program.

A context may be strict. A strict context also rules out what the check lets pass and a run may trip over:
variables without a value, results held to no type, and comparisons of things that are merely comparable.
-/

namespace Primer

/-- Whether an operator asks for the order of its operands. -/
def Operator.isOrder : Operator → Bool
  | .lt | .le | .gt | .ge => true
  | _ => false

/-- The type of an operation on operands of two types. -/
inductive Operates : Operator → Ty → Ty → Ty → Prop
  | logical {op : Operator} (isLogical : op ∈ [.and, .or]) : Operates op .boolean .boolean .boolean
  | comparison {op : Operator} {t : Ty} (isComparison : op ∈ [.lt, .le, .gt, .ge, .eq, .ne])
      (comparable : Ty.comparable.accepts t) : Operates op t t .boolean
  | join {left right : Ty} (isText : left = .string ∨ right = .string) : Operates .add left right .string
  | arithmetic {op : Operator} {t : Ty} (isArithmetic : op ∈ [.add, .sub, .mul, .div])
      (isNumber : t = .integer ∨ t = .decimal) : Operates op t t t

/-- Whether the last of some statements is one that gives a value. -/
def Stmt.closes (ss : List Stmt) : Bool :=
  match ss.getLast? with
  | some (.ret ..) => true
  | _ => false

/-- What is known at a place of a program. -/
structure Context where
  catalog : Catalog
  outerVariable? : String → Option Variable
  outerFunction? : String → Nat → Option Function
  funs : List Function
  frames : List (List Variable)
  result : Ty := .nil
  strict : Prop := False

namespace Context

/-- The variable that a name means. -/
def variableOf? (c : Context) (name : String) : Option Variable :=
  (Space.pickVariable? c.frames name).or (c.outerVariable? name)

/-- The function that a name means when called with so many arguments. -/
def functionOf? (c : Context) (name : String) (arity : Nat) : Option Function :=
  (c.funs.find? fun f => f.name == name && f.arity == arity).or (c.outerFunction? name arity)

/-- The context in a new scope that binds these variables. -/
def enter (c : Context) (vs : List Variable) : Context :=
  { c with frames := vs :: c.frames }

/-- The context after more variables are bound in the innermost scope. -/
def extend (c : Context) (vs : List Variable) : Context :=
  { c with frames := (vs ++ c.frames.headD []) :: c.frames.tail }

/-- That the innermost scope does not bind a name. -/
def Free (c : Context) (name : String) : Prop :=
  ∀ v ∈ c.frames.headD [], v.name ≠ name

theorem extend_extend (c : Context) (us vs : List Variable) : (c.extend us).extend vs = c.extend (vs ++ us) := by
  simp only [extend, List.headD_cons, List.tail_cons, List.append_assoc]

theorem extend_enter (c : Context) (us vs : List Variable) : (c.enter us).extend vs = c.enter (vs ++ us) :=
  rfl

theorem free_enter (c : Context) (name : String) : (c.enter []).Free name :=
  fun _ mem => absurd mem List.not_mem_nil

theorem free_extend {c : Context} {vs : List Variable} {name : String} :
    (c.extend vs).Free name ↔ (∀ v ∈ vs, v.name ≠ name) ∧ c.Free name := by
  simp only [Free, extend, List.headD_cons, List.forall_mem_append]

/-- There is an innermost scope to extend. -/
theorem extend_nil {c : Context} {R : Variable → Variable → Prop} {s : Space} {g scope : ScopeId}
    (inside : s.Inside R g scope c.frames) : c.extend [] = c := by
  obtain ⟨vs, frames, shape⟩ := inside.exists_cons
  simp only [extend, shape, List.headD_cons, List.tail_cons, List.nil_append]
  rw [← shape]

mutual
/-- That an expression is settled and has a type. -/
inductive Types (c : Context) : Expr → Ty → Prop
  | literal {value : Value} {offset : Nat} {t : Ty} (typed : Check.literalType value offset = .ok t) :
      Types c (.literal value offset (some t)) t
  | group {inner : Expr} {offset : Nat} {t : Ty} (inside : Types c inner t) :
      Types c (.group inner offset (some t)) t
  | binary {op : Operator} {left right : Expr} {offset : Nat} {l r t : Ty} (first : Types c left l)
      (second : Types c right r) (operates : Operates op l r t)
      (ordered : c.strict → op.isOrder → l ≠ .comparable) : Types c (.binary op left right offset (some t)) t
  | ref {name : String} {offset : Nat} {v : Variable} (found : c.variableOf? name = some v) :
      Types c (.ref name offset (some v) (some v.type)) v.type
  | field {receiver : Expr} {name : String} {offset : Nat} {t : Ty} {v : Variable} (object : Types c receiver t)
      (found : c.catalog.field? t name = some v) :
      Types c (.field receiver name offset (some v) (some v.type)) v.type
  | call {name : String} {args : List Expr} {offset : Nat} {types : List Ty} {f : Function}
      (given : TypesAll c args types) (found : c.functionOf? name types.length = some f)
      (accepted : List.Forall₂ (fun wanted given => wanted.accepts given) f.params types) :
      Types c (.call name args offset (some f) (some f.result)) f.result
  | send {receiver : Expr} {name : String} {args : List Expr} {offset : Nat} {t : Ty} {types : List Ty}
      {f : Function} (given : TypesAll c args types) (object : Types c receiver t)
      (found : c.catalog.method? t name types.length = some f) :
      Types c (.send receiver name args offset (some f) (some f.result)) f.result

/-- That expressions are settled and have types. -/
inductive TypesAll (c : Context) : List Expr → List Ty → Prop
  | nil : TypesAll c [] []
  | cons {e : Expr} {es : List Expr} {t : Ty} {ts : List Ty} (first : Types c e t) (others : TypesAll c es ts) :
      TypesAll c (e :: es) (t :: ts)
end

theorem TypesAll.length_eq {c : Context} {es : List Expr} {ts : List Ty} (typed : c.TypesAll es ts) :
    es.length = ts.length := by
  induction es generalizing ts with
  | nil =>
    cases typed
    rfl
  | cons e es ih =>
    cases typed with
    | cons first others => rw [List.length_cons, List.length_cons, ih others]

mutual
/-- That a statement is settled and adds variables to its scope. -/
inductive Admits : Context → Stmt → List Variable → Prop
  | expression {c : Context} {e : Expr} {offset : Nat} {t : Ty} (typed : c.Types e t) :
      Admits c (.expression e offset) []
  | declaration {c : Context} {typeName : Option String} {initializer : Option Expr} {offset : Nat}
      {v : Variable} (free : c.Free v.name) (typed : ∀ e, initializer = some e → c.Types e v.type)
      (initialized : c.strict → initializer ≠ none) :
      Admits c (.declaration v.name typeName initializer offset (some v)) [v]
  | assignment {c : Context} {target value : Expr} {offset : Nat} {wanted given : Ty}
      (isAccess : Check.isAccess target) (left : c.Types target wanted) (right : c.Types value given)
      (accepted : wanted.accepts given) : Admits c (.assignment target value offset) []
  | conditional {c : Context} {condition : Expr} {thenPart elsePart : List Stmt} {offset : Nat}
      (tested : c.Types condition .boolean) (first : AdmitsAll (c.enter []) thenPart)
      (second : AdmitsAll (c.enter []) elsePart) : Admits c (.conditional condition thenPart elsePart offset) []
  | forEach {c : Context} {iterable : Expr} {body : List Stmt} {offset : Nat} {v : Variable}
      (iterates : c.Types iterable .integerIterable) (counts : v.type = .integer)
      (inside : AdmitsAll (c.enter [v]) body) : Admits c (.forEach v.name iterable body offset) []
  | whileLoop {c : Context} {condition : Expr} {body : List Stmt} {offset : Nat}
      (tested : c.Types condition .boolean) (inside : AdmitsAll (c.enter []) body) :
      Admits c (.whileLoop condition body offset) []
  | ret {c : Context} {value : Expr} {offset : Nat} {t : Ty} (typed : c.Types value t)
      (returned : c.strict → c.result ≠ .nil → c.result ≠ .any → c.result.accepts t) :
      Admits c (.ret value offset) []

/-- That statements are settled, each in the scope that those before it left. -/
inductive AdmitsAll : Context → List Stmt → Prop
  | nil {c : Context} : AdmitsAll c []
  | cons {c : Context} {s : Stmt} {ss : List Stmt} {vs : List Variable} (first : Admits c s vs)
      (others : AdmitsAll (c.extend vs) ss) : AdmitsAll c (s :: ss)
end

/-! ## Programs -/

/-- That fields are settled one after the other, and the variables of the global scope before and after
them. -/
inductive AdmitsFields (c : Context) : List Variable → List Field → List Variable → Prop
  | nil {vs : List Variable} : AdmitsFields c vs [] vs
  | cons {vs vs' : List Variable} {f : Field} {fs : List Field} {v : Variable} (settled : f.binding = some v)
      (named : v.name = f.name) (free : ∀ u ∈ vs, u.name ≠ v.name)
      (typed : ∀ e, f.initializer = some e → ∃ t, Types { c with frames := [vs] } e t ∧ v.type.accepts t)
      (initialized : c.strict → f.initializer ≠ none) (others : AdmitsFields c (v :: vs) fs vs') :
      AdmitsFields c vs (f :: fs) vs'

/-- That a method is settled with a function, given the context of its body but for the parameters. -/
structure AdmitsMethod (c : Context) (m : Method) (f : Function) : Prop where
  settled : m.callee = some f
  named : f.name = m.name
  arity : f.arity = m.params.length
  distinct : (m.params.map Param.name).Nodup
  body : ∃ vs : List Variable,
    vs.reverse.map (fun v => (v.name, v.type)) = (m.params.map Param.name).zip f.params ∧
      AdmitsAll ({ c with result := f.result }.enter vs) m.body
  closed : c.strict → f.result ≠ .nil → f.result ≠ .any → Stmt.closes m.body

/-- That methods are settled one after the other, each with those before it and itself bound, and the
functions of the program before and after them. -/
inductive AdmitsMethods (c : Context) : List Function → List Method → List Function → Prop
  | nil {fs : List Function} : AdmitsMethods c fs [] fs
  | cons {fs fs' : List Function} {m : Method} {ms : List Method} {f : Function}
      (free : ∀ g ∈ fs, ¬ (g.name = f.name ∧ g.arity = f.arity))
      (first : AdmitsMethod { c with funs := f :: fs } m f) (others : AdmitsMethods c (f :: fs) ms fs') :
      AdmitsMethods c fs (m :: ms) fs'

/-- The functions of a program come from its methods. -/
theorem AdmitsMethods.mem_or_exists {c : Context} {fs fs' : List Function} {ms : List Method} {f : Function}
    (admitted : AdmitsMethods c fs ms fs') (mem : f ∈ fs') :
    f ∈ fs ∨ ∃ m ∈ ms, m.callee = some f ∧ f.name = m.name ∧ f.arity = m.params.length := by
  induction admitted with
  | nil => exact .inl mem
  | @cons fs fs' m ms h _ first _ ih =>
    rcases ih mem with (_ | ⟨_, old⟩) | ⟨m', mem', found⟩
    · exact .inr ⟨m, .head _, first.settled, first.named, first.arity⟩
    · exact .inl old
    · exact .inr ⟨m', .tail _ mem', found⟩

theorem AdmitsMethods.subset {c : Context} {fs fs' : List Function} {ms : List Method}
    (admitted : AdmitsMethods c fs ms fs') : fs ⊆ fs' := by
  induction admitted with
  | nil => exact List.Subset.refl _
  | cons _ _ _ ih => exact (List.cons_subset.mp ih).2

/-- Every method of a program gives it a function. -/
theorem AdmitsMethods.exists_function {c : Context} {fs fs' : List Function} {ms : List Method} {m : Method}
    (admitted : AdmitsMethods c fs ms fs') (mem : m ∈ ms) :
    ∃ f ∈ fs', f.name = m.name ∧ f.arity = m.params.length := by
  induction admitted with
  | nil => cases mem
  | cons _ first others ih =>
    cases mem with
    | head => exact ⟨_, others.subset (.head _), first.named, first.arity⟩
    | tail _ mem => exact ih mem

/-- That a program is settled, and the variables and functions of its global scope. -/
structure AdmitsSource (c : Context) (s : Source) (vs : List Variable) (fs : List Function) : Prop where
  fields : AdmitsFields { c with funs := [] } [] s.fields vs
  methods : AdmitsMethods { c with frames := [vs] } [] s.methods fs

end Context

/-! ## What strictness asks for -/

/-- Whether an expression asks for the order of operands that are merely comparable. -/
def Expr.comparesLoosely : Expr → Bool
  | .binary op left right _ _ =>
    op.isOrder && (left.type? == some .comparable || right.type? == some .comparable)
  | _ => false

/-- That no part of an expression compares loosely. -/
def Expr.Exact (e : Expr) : Prop :=
  ∀ part ∈ e.parts, ¬ part.comparesLoosely

/-- Whether a statement declares a variable without a value. -/
def Stmt.leavesUnset : Stmt → Bool
  | .declaration _ _ none _ _ => true
  | _ => false

/-- Whether a statement that ends a method does so with a value that the result type does not accept. -/
def Stmt.returnsOther (result : Ty) : Stmt → Bool
  | .ret value _ => !value.type?.any result.accepts
  | _ => false

/-- What a strict context asks of a single statement. -/
structure Stmt.Proper (result : Ty) (s : Stmt) : Prop where
  set : ¬ s.leavesUnset
  exact : ∀ e ∈ s.exprs, e.Exact
  returns : result ≠ .nil → result ≠ .any → ¬ s.returnsOther result

/-- What strictness asks of a program: fields and variables have values, results are held to their types
and given at the end, and only what is ordered is compared by order. -/
structure Source.Strict (s : Source) : Prop where
  fieldsSet : ∀ f ∈ s.fields, f.initializer ≠ none
  variablesSet : ∀ p ∈ s.statements, ¬ p.leavesUnset
  returns : ∀ m ∈ s.methods, ∀ f ∈ m.callee, f.result ≠ .nil → f.result ≠ .any →
    (∀ p ∈ Stmt.partsAll m.body, ¬ p.returnsOther f.result) ∧ Stmt.closes m.body
  exact : ∀ e ∈ s.expressions, ¬ e.comparesLoosely

instance (s : Source) : Decidable s.Strict :=
  decidable_of_iff
    ((∀ f ∈ s.fields, f.initializer ≠ none) ∧ (∀ p ∈ s.statements, ¬ p.leavesUnset) ∧
      (∀ m ∈ s.methods, ∀ f ∈ m.callee, f.result ≠ .nil → f.result ≠ .any →
        (∀ p ∈ Stmt.partsAll m.body, ¬ p.returnsOther f.result) ∧ Stmt.closes m.body) ∧
      ∀ e ∈ s.expressions, ¬ e.comparesLoosely)
    ⟨fun ⟨fieldsSet, variablesSet, returns, exact⟩ => ⟨fieldsSet, variablesSet, returns, exact⟩,
      fun ⟨fieldsSet, variablesSet, returns, exact⟩ => ⟨fieldsSet, variablesSet, returns, exact⟩⟩

end Primer
