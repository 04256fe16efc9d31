import Primer.Proofs.Space.Inside
import Primer.Tree

/-!
# The variables of a program

Checking makes a record for every declaration of a program, and numbers them in the order of the text: a field
has one, a method has one and then one for each of its parameters, and so have the variables that statements
declare and those that loops count with. Fields, methods and declarations hold their record in a slot. A
parameter and a loop have none, but their records are known by counting.

A name means the variable of the innermost scope around it that declares the name before it, or else what it
means around the program. `Expr.Bound` and `Stmt.Bound` say that this is what the slots of names hold.
-/

namespace Primer

namespace Variable

/-- The variable that a loop counts with, given its number. -/
def ofLoop (number : Nat) (name : String) : Variable where
  number
  name
  type := .integer
  javaName := name

/-- The variables of parameters, given the number of the first. -/
def ofParams (number : Nat) : List (String × Ty) → List Variable
  | [] => []
  | (name, type) :: params => { number, name, type, javaName := name } :: ofParams (number + 1) params

theorem names_ofParams (number : Nat) (params : List (String × Ty)) :
    (ofParams number params).map name = params.map Prod.fst := by
  induction params generalizing number with
  | nil => rfl
  | cons param params ih => rw [ofParams, List.map_cons, ih, List.map_cons]

theorem numbers_ofParams (number : Nat) (params : List (String × Ty)) :
    (ofParams number params).map Variable.number = List.range' number params.length := by
  induction params generalizing number with
  | nil => rfl
  | cons param params ih => rw [ofParams, List.map_cons, ih, List.length_cons, List.range'_succ]

end Variable

/-! ## Counting -/

namespace Stmt

mutual
/-- How many variables a statement declares, at any depth. -/
def count : Stmt → Nat
  | declaration .. => 1
  | conditional _ thenPart elsePart _ => countAll thenPart + countAll elsePart
  | forEach _ _ body _ => 1 + countAll body
  | whileLoop _ body _ => countAll body
  | _ => 0

/-- How many variables statements declare, at any depth. -/
def countAll : List Stmt → Nat
  | [] => 0
  | s :: ss => s.count + countAll ss
end

mutual
/-- The variables of a statement in the order of the text, given the number of the first. -/
def declared (next : Nat) : Stmt → List Variable
  | declaration _ _ _ _ binding => binding.toList
  | conditional _ thenPart elsePart _ =>
    declaredAll next thenPart ++ declaredAll (next + countAll thenPart) elsePart
  | forEach name _ body _ => .ofLoop next name :: declaredAll (next + 1) body
  | whileLoop _ body _ => declaredAll next body
  | _ => []

/-- The variables of statements in the order of the text, given the number of the first. -/
def declaredAll (next : Nat) : List Stmt → List Variable
  | [] => []
  | s :: ss => s.declared next ++ declaredAll (next + s.count) ss
end

/-- The variable that a statement adds to the scope it stands in. -/
def bindings : Stmt → List Variable
  | declaration _ _ _ _ binding => binding.toList
  | _ => []

end Stmt

/-- The variables of the parameters of a method that was settled with a function. -/
def Function.paramVariables (f : Function) (names : List String) : List Variable :=
  Variable.ofParams (f.number + 1) (names.zip f.params)

/-- The number of the first variable in the body of a method that was settled with a function. -/
def Function.bodyNumber (f : Function) (names : List String) : Nat :=
  f.number + 1 + names.length

/-- The variables of a method in the order of the text. -/
def Method.declared (m : Method) : List Variable :=
  m.callee.toList.flatMap fun f =>
    f.paramVariables (m.params.map Param.name) ++ Stmt.declaredAll (f.bodyNumber (m.params.map Param.name)) m.body

/-- The variables of a program in the order of the text. -/
def Source.declared (s : Source) : List Variable :=
  (s.fields.flatMap fun f => f.binding.toList) ++ s.methods.flatMap Method.declared

/-! ## What names mean -/

/-- What names mean in a place, given what they mean around the program and the variables of the scopes
between. -/
def Variable.meant (outer? : String → Option Variable) (frames : List (List Variable)) (name : String) :
    Option Variable :=
  (Space.pickVariable? frames name).or (outer? name)

mutual
/-- That every name in an expression holds the variable that it means. -/
def Expr.Bound (means : String → Option Variable) : Expr → Prop
  | .literal .. | .unknown _ => True
  | .group inner _ _ => inner.Bound means
  | .binary _ left right _ _ => left.Bound means ∧ right.Bound means
  | .ref name _ binding _ => ∃ v, binding = some v ∧ means name = some v
  | .field receiver _ _ _ _ => receiver.Bound means
  | .call _ args _ _ _ => Expr.BoundAll means args
  | .send receiver _ args _ _ _ => Expr.BoundAll means args ∧ receiver.Bound means

/-- That every name in some expressions holds the variable that it means. -/
def Expr.BoundAll (means : String → Option Variable) : List Expr → Prop
  | [] => True
  | e :: es => e.Bound means ∧ Expr.BoundAll means es
end

/-- That every name in an expression holds the variable that it means in a place. -/
abbrev Expr.BoundIn (outer? : String → Option Variable) (frames : List (List Variable)) (e : Expr) : Prop :=
  e.Bound (Variable.meant outer? frames)

namespace Stmt

variable (outer? : String → Option Variable)

mutual
/-- That every name in a statement holds the variable that it means, and every declaration a variable of its
own name and number, given the number of the first and the variables of the scopes around. -/
def Bound (next : Nat) (frames : List (List Variable)) : Stmt → Prop
  | expression e _ => e.BoundIn outer? frames
  | declaration name _ initializer _ binding =>
    (∀ e, initializer = some e → e.BoundIn outer? frames) ∧
      ∃ v, binding = some v ∧ v.name = name ∧ v.number = next
  | assignment target value _ => target.BoundIn outer? frames ∧ value.BoundIn outer? frames
  | conditional condition thenPart elsePart _ =>
    condition.BoundIn outer? frames ∧ BoundAll next ([] :: frames) thenPart ∧
      BoundAll (next + countAll thenPart) ([] :: frames) elsePart
  | forEach name iterable body _ =>
    iterable.BoundIn outer? frames ∧ BoundAll (next + 1) ([.ofLoop next name] :: frames) body
  | whileLoop condition body _ => condition.BoundIn outer? frames ∧ BoundAll next ([] :: frames) body
  | ret value _ => value.BoundIn outer? frames
  | unknown _ => True

/-- That statements are bound, each in the scope that those before it left. -/
def BoundAll (next : Nat) (frames : List (List Variable)) : List Stmt → Prop
  | [] => True
  | s :: ss =>
    s.Bound next frames ∧ BoundAll (next + s.count) ((s.bindings ++ frames.headD []) :: frames.tail) ss
end

end Stmt

/-- That fields are bound one after the other, given the number of the first, and the variables of the global
scope before and after them. -/
inductive Field.BoundAll (outer? : String → Option Variable) :
    Nat → List Variable → List Field → List Variable → Prop
  | nil {next : Nat} {vs : List Variable} : BoundAll outer? next vs [] vs
  | cons {next : Nat} {vs vs' : List Variable} {f : Field} {fs : List Field} {v : Variable}
      (settled : f.binding = some v) (named : v.name = f.name) (numbered : v.number = next)
      (initial : ∀ e, f.initializer = some e → e.BoundIn outer? [vs])
      (others : BoundAll outer? (next + 1) (v :: vs) fs vs') : BoundAll outer? next vs (f :: fs) vs'

/-- That a method is settled with a function of a number and its body is bound, given the variables of the
fields. -/
structure Method.Bound (outer? : String → Option Variable) (fields : List Variable) (number : Nat) (m : Method)
    (f : Function) : Prop where
  settled : m.callee = some f
  numbered : f.number = number
  arity : f.params.length = m.params.length
  body : Stmt.BoundAll outer? (f.bodyNumber (m.params.map Param.name))
    [(f.paramVariables (m.params.map Param.name)).reverse, fields] m.body

/-- How many records a method has: its own, those of the parameters, and those of the body. -/
def Method.count (m : Method) : Nat :=
  1 + m.params.length + Stmt.countAll m.body

/-- That methods are bound, and numbered one after the other. -/
inductive Method.BoundAll (outer? : String → Option Variable) (fields : List Variable) : Nat → List Method → Prop
  | nil {next : Nat} : BoundAll outer? fields next []
  | cons {next : Nat} {m : Method} {ms : List Method} {f : Function} (first : m.Bound outer? fields next f)
      (others : BoundAll outer? fields (next + m.count) ms) : BoundAll outer? fields next (m :: ms)

/-- That a program is bound, given the number of its first variable and the variables of its fields. -/
structure Source.Bound (outer? : String → Option Variable) (next : Nat) (vs : List Variable) (s : Source) :
    Prop where
  fields : Field.BoundAll outer? next [] s.fields vs
  methods : Method.BoundAll outer? vs (next + s.fields.length) s.methods

/-! ## Numbers -/

section

variable {outer? : String → Option Variable}

mutual
/-- The variables of a bound statement are numbered one after the other. -/
theorem Stmt.Bound.numbers {next : Nat} {frames : List (List Variable)} {s : Stmt} (bound : s.Bound outer? next frames) :
    (s.declared next).map Variable.number = List.range' next s.count := by
  cases s with
  | expression | assignment | ret | unknown => rfl
  | declaration name typeName initializer offset binding =>
    obtain ⟨-, v, rfl, -, numbered⟩ := bound
    rw [declared, Option.toList_some, List.map_singleton, numbered]
    rfl
  | conditional condition thenPart elsePart =>
    obtain ⟨-, first, second⟩ := bound
    rw [declared, List.map_append, Stmt.BoundAll.numbers first, Stmt.BoundAll.numbers second, count,
      List.range'_append_1]
  | forEach name iterable body =>
    obtain ⟨-, inside⟩ := bound
    rw [declared, List.map_cons, Stmt.BoundAll.numbers inside, count, Nat.add_comm 1, List.range'_succ]
    rfl
  | whileLoop condition body =>
    obtain ⟨-, inside⟩ := bound
    exact Stmt.BoundAll.numbers inside

theorem Stmt.BoundAll.numbers {next : Nat} {frames : List (List Variable)} {ss : List Stmt}
    (bound : Stmt.BoundAll outer? next frames ss) :
    (Stmt.declaredAll next ss).map Variable.number = List.range' next (Stmt.countAll ss) := by
  cases ss with
  | nil => rfl
  | cons s ss =>
    obtain ⟨first, others⟩ := bound
    rw [Stmt.declaredAll, List.map_append, Stmt.Bound.numbers first, Stmt.BoundAll.numbers others, Stmt.countAll,
      List.range'_append_1]
end

/-- The variables of fields are numbered one after the other. -/
theorem Field.BoundAll.numbers {next : Nat} {vs vs' : List Variable} {fs : List Field}
    (bound : Field.BoundAll outer? next vs fs vs') :
    (fs.flatMap fun f => f.binding.toList).map Variable.number = List.range' next fs.length := by
  induction bound with
  | nil => rfl
  | cons settled _ numbered _ _ ih =>
    rw [List.flatMap_cons, settled, Option.toList_some, List.singleton_append, List.map_cons, ih, numbered,
      List.length_cons, List.range'_succ]

/-- The variables of a method are numbered one after the other, from the number after its own. -/
theorem Method.Bound.numbers {fields : List Variable} {number : Nat} {m : Method} {f : Function}
    (bound : m.Bound outer? fields number f) :
    m.declared.map Variable.number = List.range' (number + 1) (m.params.length + Stmt.countAll m.body) := by
  have params : ((m.params.map Param.name).zip f.params).length = m.params.length := by
    rw [List.length_zip, List.length_map, bound.arity, Nat.min_self]
  rw [Method.declared, bound.settled, Option.toList_some, List.flatMap_singleton, List.map_append,
    bound.body.numbers, Function.paramVariables, Variable.numbers_ofParams, params, Function.bodyNumber,
    List.length_map, bound.numbered, List.range'_append_1]

theorem Method.BoundAll.pairwise_numbers {fields : List Variable} {next : Nat} {ms : List Method}
    (bound : Method.BoundAll outer? fields next ms) :
    (ms.flatMap Method.declared).Pairwise (fun u v => u.number < v.number) ∧
      ∀ v ∈ ms.flatMap Method.declared, next ≤ v.number := by
  induction bound with
  | nil => exact ⟨.nil, List.forall_mem_nil _⟩
  | @cons next m ms f first others ih =>
    obtain ⟨later, after⟩ := ih
    have numbers := first.numbers
    have bounds : ∀ v ∈ m.declared, next + 1 ≤ v.number ∧ v.number < next + m.count := by
      intro v mem
      have listed : v.number ∈ m.declared.map Variable.number := List.mem_map_of_mem mem
      rw [numbers, List.mem_range'_1] at listed
      rw [Method.count]
      omega
    rw [List.flatMap_cons]
    refine ⟨List.pairwise_append.mpr ⟨?_, later, fun u mem v mem' => ?_⟩, List.forall_mem_append.mpr ⟨?_, ?_⟩⟩
    · have increasing := List.pairwise_lt_range' (s := next + 1) (n := m.params.length + Stmt.countAll m.body)
      rw [← numbers, List.pairwise_map] at increasing
      exact increasing
    · exact Nat.lt_of_lt_of_le (bounds u mem).2 (after v mem')
    · exact fun v mem => Nat.le_of_succ_le (bounds v mem).1
    · exact fun v mem => Nat.le_trans (Nat.le_add_right _ _) (after v mem)

/-- **Numbers.** The variables of a bound program are numbered in the order of the text, so that each
declaration has its own. -/
theorem Source.Bound.pairwise_numbers {next : Nat} {vs : List Variable} {s : Source}
    (bound : s.Bound outer? next vs) :
    s.declared.Pairwise (fun u v => u.number < v.number) ∧ ∀ v ∈ s.declared, next ≤ v.number := by
  obtain ⟨later, after⟩ := bound.methods.pairwise_numbers
  have numbers := bound.fields.numbers
  have bounds : ∀ v ∈ s.fields.flatMap fun f => f.binding.toList,
      next ≤ v.number ∧ v.number < next + s.fields.length := by
    intro v mem
    have listed : v.number ∈ (s.fields.flatMap fun f => f.binding.toList).map Variable.number :=
      List.mem_map_of_mem mem
    rwa [numbers, List.mem_range'_1] at listed
  refine ⟨List.pairwise_append.mpr ⟨?_, later, fun u mem v mem' => ?_⟩, List.forall_mem_append.mpr ⟨?_, ?_⟩⟩
  · have increasing := List.pairwise_lt_range' (s := next) (n := s.fields.length)
    rw [← numbers, List.pairwise_map] at increasing
    exact increasing
  · exact Nat.lt_of_lt_of_le (bounds u mem).2 (after v mem')
  · exact fun v mem => (bounds v mem).1
  · exact fun v mem => Nat.le_trans (Nat.le_add_right _ _) (after v mem)

end

end Primer
