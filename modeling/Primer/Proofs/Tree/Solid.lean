import Primer.Proofs.Space.Growth
import Primer.Proofs.Tree.Parts
import Primer.Catalog

/-!
# Names that can be written

A text is solid when it has characters, and none of them is a blank, the end of a line, a quote or a brace. A solid
text can stand anywhere in another without a change to how that one is laid out. A name in Java begins with a letter, an
underscore or a dollar sign and goes on with these and digits, and a path is names with points between them. A path is
solid.

A tree is solid when all that it holds can be written down as it stands: the names that it declares are names in Java,
its operators are solid, and the records in its slots have paths for names in Java, and types with solid ones. The
records come from spaces and catalogs, so it is said of these as well.
-/

namespace Primer

namespace Text

/-- Whether the layout of a text depends on a character: on a blank, the end of a line, a quote or a brace. -/
def isMark : Char → Bool
  | ' ' | '\n' | '\x22' | '\x27' | '\x7b' | '\x7d' => true
  | _ => false

/-- Whether a text can stand in any other without a change to how that one is laid out. -/
def isSolid (text : String) : Bool :=
  !text.toList.isEmpty && text.toList.all fun c => !isMark c

theorem isSolid_iff {text : String} : isSolid text ↔ text.toList ≠ [] ∧ ∀ c ∈ text.toList, isMark c = false := by
  simp [isSolid]

end Text

open Text (isSolid)

/-! ## Names in Java -/

namespace Java

/-- Whether a character begins a name. -/
def isNameStart (c : Char) : Bool :=
  c.isAlpha || c == '_' || c == '$'

/-- Whether a character goes on with a name. -/
def isNamePart (c : Char) : Bool :=
  isNameStart c || c.isDigit

/-- Whether a text is a name. -/
def isName : List Char → Bool
  | [] => false
  | c :: cs => isNameStart c && cs.all isNamePart

/-- The names in a path. -/
def pathOf (name : String) : List (List Char) :=
  name.toList.splitOn '.'

/-- That a text is a path of names. -/
def IsPath (name : String) : Prop :=
  ∀ part ∈ pathOf name, isName part

instance (name : String) : Decidable (IsPath name) :=
  inferInstanceAs (Decidable (∀ part ∈ pathOf name, isName part))

theorem ne_nil_of_isName {cs : List Char} (name : isName cs) : cs ≠ [] := by
  rintro rfl
  cases name

theorem isNamePart_of_isName {cs : List Char} (name : isName cs) : ∀ c ∈ cs, isNamePart c := by
  cases cs with
  | nil => cases name
  | cons c cs =>
    simp only [isName, Bool.and_eq_true, List.all_eq_true] at name
    exact List.forall_mem_cons.mpr ⟨by simp [isNamePart, name.1], name.2⟩

theorem pathOf_ne_nil (name : String) : pathOf name ≠ [] :=
  List.splitOn_ne_nil _ _

theorem intercalate_eq {α : Type} (separator first : List α) (others : List (List α)) :
    separator.intercalate (first :: others) = first ++ others.flatMap (separator ++ ·) := by
  induction others generalizing first with
  | nil => simp [List.intercalate_singleton]
  | cons next others ih => simp only [List.intercalate_cons_cons, ih, List.flatMap_cons, List.append_assoc]

theorem toList_eq_path (name : String) :
    name.toList = (pathOf name).headD [] ++ (pathOf name).tail.flatMap ('.' :: ·) := by
  obtain ⟨first, others, shape⟩ := List.exists_cons_of_ne_nil (pathOf_ne_nil name)
  have joined : ['.'].intercalate (name.toList.splitOn '.') = name.toList := List.intercalate_splitOn '.'
  rw [← pathOf, shape, intercalate_eq] at joined
  rw [shape, ← joined]
  rfl

/-- A name by itself is a path. -/
theorem isPath_of_isName {name : String} (isName : isName name.toList) : IsPath name := by
  have noPoint : ∀ c ∈ name.toList, (c == '.') = false := by
    intro c mem
    have part := isNamePart_of_isName isName c mem
    rw [beq_eq_false_iff_ne]
    rintro rfl
    exact absurd part (by decide)
  rw [IsPath, pathOf, List.splitOn, List.splitOnP_eq_singleton noPoint]
  exact List.forall_mem_singleton.mpr isName

theorem isMark_of_isNamePart {c : Char} (part : isNamePart c) : Text.isMark c = false := by
  unfold Text.isMark
  split
  all_goals first | rfl | exact absurd part (by decide)

theorem isSolid_of_isPath {name : String} (isPath : IsPath name) : isSolid name := by
  obtain ⟨first, others, shape⟩ := List.exists_cons_of_ne_nil (pathOf_ne_nil name)
  have spelled := toList_eq_path name
  rw [IsPath, shape, List.forall_mem_cons] at isPath
  rw [shape] at spelled
  have unmarked : ∀ {part : List Char}, isName part → ∀ c ∈ part, Text.isMark c = false :=
    fun isName c mem => isMark_of_isNamePart (isNamePart_of_isName isName c mem)
  rw [Text.isSolid_iff, spelled]
  refine ⟨by simp [ne_nil_of_isName isPath.1], List.forall_mem_append.mpr ⟨unmarked isPath.1, ?_⟩⟩
  intro c mem
  obtain ⟨part, isPart, mem⟩ := List.mem_flatMap.mp mem
  rcases List.mem_cons.mp mem with rfl | mem
  · rfl
  · exact unmarked (isPath.2 part isPart) c mem

end Java

/-! ## Records -/

/-- That the name of a type in Java is solid. -/
def Ty.Solid (t : Ty) : Prop :=
  isSolid t.javaName

/-- The types that a program can name have solid names. -/
theorem Ty.solid_of_mem_builtIns {t : Ty} (mem : t ∈ builtIns) : t.Solid := by
  have each : builtIns.all (fun t => isSolid t.javaName) := by decide
  exact List.all_eq_true.mp each t mem

/-- That the name of a variable in Java is a path, and that of its type solid. -/
structure Variable.Solid (v : Variable) : Prop where
  javaName : Java.IsPath v.javaName
  type : v.type.Solid

/-- That the name of a function in Java is a path, and those of its types are solid. -/
structure Function.Solid (f : Function) : Prop where
  javaName : Java.IsPath f.javaName
  params : ∀ t ∈ f.params, t.Solid
  result : f.result.Solid

/-- That all members of types are solid. -/
structure Catalog.Solid (c : Catalog) : Prop where
  fields : ∀ m ∈ c.fields, m.2.Solid
  methods : ∀ m ∈ c.methods, m.2.Solid

namespace Catalog.Solid

variable {c : Catalog} {t : Ty} {name : String} {arity : Nat}

theorem field? (solid : c.Solid) {v : Variable} (found : c.field? t name = some v) : v.Solid := by
  obtain ⟨m, isMember, rfl⟩ := Option.map_eq_some_iff.mp found
  exact solid.fields m (List.mem_of_find?_eq_some isMember)

theorem method? (solid : c.Solid) {f : Function} (found : c.method? t name arity = some f) : f.Solid := by
  obtain ⟨m, isMember, rfl⟩ := Option.map_eq_some_iff.mp found
  exact solid.methods m (List.mem_of_find?_eq_some isMember)

end Catalog.Solid

/-- That all records of a frame are solid. -/
structure Frame.Solid (f : Frame) : Prop where
  vars : ∀ v ∈ f.vars, v.Solid
  funs : ∀ g ∈ f.funs, g.Solid

namespace Space

/-- That all records of a space are solid. -/
def Solid (s : Space) : Prop :=
  ∀ i f, s.frame? i = some f → f.Solid

namespace Solid

variable {s s' : Space} {scope : ScopeId} {name : String} {arity : Nat} {type result : Ty} {params : List Ty}

theorem lookupVariable? (solid : s.Solid) {v : Variable} (found : s.lookupVariable? scope name = some v) :
    v.Solid := by
  obtain ⟨i, f, isFrame, -, picked⟩ := exists_frame_of_findUp found
  exact (solid i f isFrame).vars v (List.mem_of_find?_eq_some picked)

theorem lookupFunction? (solid : s.Solid) {g : Function} (found : s.lookupFunction? scope name arity = some g) :
    g.Solid := by
  obtain ⟨i, f, isFrame, -, picked⟩ := exists_frame_of_findUp found
  exact (solid i f isFrame).funs g (List.mem_of_find?_eq_some picked)

theorem child (solid : s.Solid) (scope : ScopeId) : (s.child scope).1.Solid := by
  intro i f found
  rcases frame?_child_cases found with old | ⟨-, vars, funs⟩
  · exact solid i f old
  · exact ⟨by simp [vars], by simp [funs]⟩

theorem addVariable (solid : s.Solid) {v : Variable} (new : v.Solid) : (s.addVariable scope v).Solid := by
  intro i f found
  rw [frame?_addVariable] at found
  split at found
  next =>
    obtain ⟨old, isFrame, rfl⟩ := Option.map_eq_some_iff.mp found
    exact ⟨List.forall_mem_cons.mpr ⟨new, (solid i old isFrame).vars⟩, (solid i old isFrame).funs⟩
  next => exact solid i f found

theorem addFunction (solid : s.Solid) {g : Function} (new : g.Solid) : (s.addFunction scope g).Solid := by
  intro i f found
  rw [frame?_addFunction] at found
  split at found
  next =>
    obtain ⟨old, isFrame, rfl⟩ := Option.map_eq_some_iff.mp found
    exact ⟨(solid i old isFrame).vars, List.forall_mem_cons.mpr ⟨new, (solid i old isFrame).funs⟩⟩
  next => exact solid i f found

/-- A variable that a program declares is known in Java by its own name. -/
theorem declareVariable? (solid : s.Solid) (named : Java.isName name.toList) (typed : type.Solid) {v : Variable}
    (declared : s.declareVariable? scope name type = some (s', v)) : s'.Solid ∧ v.Solid := by
  simp only [Space.declareVariable?, defineVariable?] at declared
  split at declared
  next => cases declared
  next =>
    cases declared
    have new : (s.newVariable name type).2.Solid := ⟨Java.isPath_of_isName named, typed⟩
    have old : (s.newVariable name type).1.Solid := solid
    exact ⟨old.addVariable new, new⟩

/-- A function that a program declares is known in Java by its own name. -/
theorem declareFunction? (solid : s.Solid) (named : Java.isName name.toList) (accepts : ∀ t ∈ params, t.Solid)
    (gives : result.Solid) {g : Function} (declared : s.declareFunction? scope name params result = some (s', g)) :
    s'.Solid ∧ g.Solid := by
  simp only [Space.declareFunction?, defineFunction?] at declared
  split at declared
  next => cases declared
  next =>
    cases declared
    have new : (s.newFunction name params result).2.Solid := ⟨Java.isPath_of_isName named, accepts, gives⟩
    have old : (s.newFunction name params result).1.Solid := solid
    exact ⟨old.addFunction new, new⟩

end Solid

end Space

/-! ## Trees -/

/-- That an expression holds solid records and operators. The names in it are not written but looked up. -/
inductive Expr.Solid : Expr → Prop
  | literal {value : Value} {offset : Nat} {type : Option Ty} : Expr.Solid (.literal value offset type)
  | group {inner : Expr} {offset : Nat} {type : Option Ty} (inside : inner.Solid) :
      Expr.Solid (.group inner offset type)
  | binary {op : Operator} {left right : Expr} {offset : Nat} {type : Option Ty} (sign : isSolid op.symbol)
      (first : left.Solid) (second : right.Solid) : Expr.Solid (.binary op left right offset type)
  | ref {name : String} {offset : Nat} {binding : Option Variable} {type : Option Ty}
      (settled : ∀ v ∈ binding, v.Solid) : Expr.Solid (.ref name offset binding type)
  | field {receiver : Expr} {name : String} {offset : Nat} {binding : Option Variable} {type : Option Ty}
      (object : receiver.Solid) (settled : ∀ v ∈ binding, v.Solid) :
      Expr.Solid (.field receiver name offset binding type)
  | call {name : String} {args : List Expr} {offset : Nat} {callee : Option Function} {type : Option Ty}
      (given : ∀ e ∈ args, e.Solid) (settled : ∀ f ∈ callee, f.Solid) : Expr.Solid (.call name args offset callee type)
  | send {receiver : Expr} {name : String} {args : List Expr} {offset : Nat} {callee : Option Function}
      {type : Option Ty} (object : receiver.Solid) (given : ∀ e ∈ args, e.Solid) (settled : ∀ f ∈ callee, f.Solid) :
      Expr.Solid (.send receiver name args offset callee type)
  | unknown {offset : Nat} : Expr.Solid (.unknown offset)

/-- That a statement declares names in Java, and holds solid records and operators. -/
inductive Stmt.Solid : Stmt → Prop
  | expression {e : Expr} {offset : Nat} (inside : e.Solid) : Stmt.Solid (.expression e offset)
  | declaration {name : String} {typeName : Option String} {initializer : Option Expr} {offset : Nat}
      {binding : Option Variable} (named : Java.isName name.toList) (inside : ∀ e ∈ initializer, e.Solid)
      (settled : ∀ v ∈ binding, v.Solid) : Stmt.Solid (.declaration name typeName initializer offset binding)
  | assignment {target value : Expr} {offset : Nat} (first : target.Solid) (second : value.Solid) :
      Stmt.Solid (.assignment target value offset)
  | conditional {condition : Expr} {thenPart elsePart : List Stmt} {offset : Nat} (tested : condition.Solid)
      (first : ∀ s ∈ thenPart, s.Solid) (second : ∀ s ∈ elsePart, s.Solid) :
      Stmt.Solid (.conditional condition thenPart elsePart offset)
  | forEach {name : String} {iterable : Expr} {body : List Stmt} {offset : Nat} (named : Java.isName name.toList)
      (iterated : iterable.Solid) (inside : ∀ s ∈ body, s.Solid) : Stmt.Solid (.forEach name iterable body offset)
  | whileLoop {condition : Expr} {body : List Stmt} {offset : Nat} (tested : condition.Solid)
      (inside : ∀ s ∈ body, s.Solid) : Stmt.Solid (.whileLoop condition body offset)
  | ret {value : Expr} {offset : Nat} (inside : value.Solid) : Stmt.Solid (.ret value offset)
  | unknown {offset : Nat} : Stmt.Solid (.unknown offset)

/-- That a field declares a name in Java, and holds solid records and operators. -/
structure Field.Solid (f : Field) : Prop where
  named : Java.isName f.name.toList
  initializer : ∀ e ∈ f.initializer, e.Solid
  settled : ∀ v ∈ f.binding, v.Solid

/-- That a method declares names in Java, and holds solid records and operators. -/
structure Method.Solid (m : Method) : Prop where
  named : Java.isName m.name.toList
  params : ∀ p ∈ m.params, Java.isName p.name.toList
  body : ∀ s ∈ m.body, s.Solid
  settled : ∀ f ∈ m.callee, f.Solid

/-- That a program declares names in Java, and holds solid records and operators. -/
structure Source.Solid (s : Source) : Prop where
  fields : ∀ f ∈ s.fields, f.Solid
  methods : ∀ m ∈ s.methods, m.Solid

theorem Stmt.Solid.exprs {s : Stmt} (solid : s.Solid) : ∀ p ∈ s.parts, ∀ e ∈ p.exprs, e.Solid := by
  induction solid with
  | expression inside | ret inside => exact List.forall_mem_singleton.mpr (List.forall_mem_singleton.mpr inside)
  | declaration _ inside => exact List.forall_mem_singleton.mpr fun e mem => inside e (Option.mem_toList.mp mem)
  | assignment first second =>
    exact List.forall_mem_singleton.mpr (List.forall_mem_cons.mpr ⟨first, List.forall_mem_singleton.mpr second⟩)
  | conditional tested _ _ first second =>
    exact List.forall_mem_cons.mpr ⟨List.forall_mem_singleton.mpr tested,
      List.forall_mem_append.mpr ⟨Stmt.forall_partsAll.mpr first, Stmt.forall_partsAll.mpr second⟩⟩
  | forEach _ first _ inside | whileLoop first _ inside =>
    exact List.forall_mem_cons.mpr ⟨List.forall_mem_singleton.mpr first, Stmt.forall_partsAll.mpr inside⟩
  | unknown => exact List.forall_mem_singleton.mpr (List.forall_mem_nil _)

/-- What holds everywhere in solid expressions holds everywhere in a solid program. -/
theorem Source.Solid.forall_expressions {s : Source} (solid : s.Solid) {P : Expr → Prop}
    (holds : ∀ e : Expr, e.Solid → ∀ part ∈ e.parts, P part) : ∀ e ∈ s.expressions, P e := by
  have statements : ∀ p ∈ s.statements, ∀ e ∈ p.exprs, e.Solid :=
    Source.forall_statements.mpr fun m mem p inBody => ((solid.methods m mem).body p inBody).exprs
  refine Source.forall_expressions.mpr ⟨fun f mem e isValue => ?_, fun p mem e direct => ?_⟩
  · exact holds e ((solid.fields f mem).initializer e isValue)
  · exact holds e (statements p mem e direct)

end Primer
