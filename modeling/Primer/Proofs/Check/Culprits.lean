import Primer.Proofs.Check.Bare

/-!
# What a check that ends early ends with

A check ends early because of one phrase of the program, or because the program has no main method. A complaint is
placed at that phrase. What is no complaint tells of the tree: that a slot in the phrase was filled before, that the
phrase is of no known form, or that it is a literal too long to be shown.

**The law** (`raises_of_checkSource`): what ends the check of a program is raised by the program. `Raises` says what
each sort of phrase can raise by itself, and a program raises what one of its phrases does.

The law of a phrase is stated for any sort of problems that has in it all that the parts of the phrase raise
(`Answers`), so that it carries over to the phrase around it.
-/

namespace Primer

/-- What an expression, apart from the expressions inside it, can end a check with. -/
inductive Expr.Raises : Expr → CheckError → Prop
  | complaint (e : Expr) (c : Complaint) : e.Raises (.complaint c e.offset)
  | settled {e : Expr} (filled : e.bare ≠ e) (phrase : SlottedPhrase) (slot : Slot) :
      e.Raises (.alreadySettled phrase slot)
  | unknown (offset : Nat) : Raises (.unknown offset) .unknownPhrase
  | unwritable {value : Value} (textless : value.inspect? = none) (offset : Nat) (type : Option Ty) :
      Raises (.literal value offset type) .unwritableInteger

/-- What a statement, apart from what is inside it, can end a check with. -/
inductive Stmt.Raises : Stmt → CheckError → Prop
  | complaint (s : Stmt) (c : Complaint) : s.Raises (.complaint c s.offset)
  | settled {s : Stmt} (filled : s.bare ≠ s) (phrase : SlottedPhrase) (slot : Slot) :
      s.Raises (.alreadySettled phrase slot)
  | unknown (offset : Nat) : Raises (.unknown offset) .unknownPhrase

/-- What a field, apart from its initializer, can end a check with. -/
inductive Field.Raises (f : Field) : CheckError → Prop
  | complaint (c : Complaint) : f.Raises (.complaint c f.offset)
  | settled (filled : f.bare ≠ f) (phrase : SlottedPhrase) (slot : Slot) : f.Raises (.alreadySettled phrase slot)

/-- What a method, apart from its body, can end a check with. -/
inductive Method.Raises (m : Method) : CheckError → Prop
  | complaint (c : Complaint) : m.Raises (.complaint c m.offset)
  | settled (filled : m.bare ≠ m) (phrase : SlottedPhrase) (slot : Slot) : m.Raises (.alreadySettled phrase slot)

/-- What a program can end a check with. -/
inductive Source.Raises (s : Source) : CheckError → Prop
  | complaint (c : Complaint) : s.Raises (.complaint c 0)
  | field {f : Field} {problem : CheckError} (mem : f ∈ s.fields) (raises : f.Raises problem) : s.Raises problem
  | method {m : Method} {problem : CheckError} (mem : m ∈ s.methods) (raises : m.Raises problem) : s.Raises problem
  | statement {p : Stmt} {problem : CheckError} (mem : p ∈ s.statements) (raises : p.Raises problem) :
      s.Raises problem
  | expression {e : Expr} {problem : CheckError} (mem : e ∈ s.expressions) (raises : e.Raises problem) :
      s.Raises problem

/-- That what the parts of an expression raise is of some sort. -/
def Expr.Answers (P : CheckError → Prop) (e : Expr) : Prop :=
  ∀ part ∈ e.parts, ∀ problem, part.Raises problem → P problem

/-- That what is raised inside a statement is of some sort. -/
def Stmt.Answers (P : CheckError → Prop) (s : Stmt) : Prop :=
  ∀ p ∈ s.parts, (∀ problem, p.Raises problem → P problem) ∧ ∀ e ∈ p.exprs, e.Answers P

/-- What is raised in an initializer is raised by the program. -/
theorem Source.answers_initializer (s : Source) {f : Field} (mem : f ∈ s.fields) :
    ∀ e ∈ f.initializer, e.Answers s.Raises := by
  have inside := (Source.forall_expressions.mp fun e (mem : e ∈ s.expressions) => mem).1
  exact fun e isValue part isPart _ => .expression (inside f mem e isValue part isPart)

/-- What is raised in the body of a method is raised by the program. -/
theorem Source.answers_body (s : Source) {m : Method} (mem : m ∈ s.methods) :
    ∀ p ∈ m.body, p.Answers s.Raises := by
  have statements := Source.forall_statements.mp fun p (mem : p ∈ s.statements) => mem
  have inside := (Source.forall_expressions.mp fun e (mem : e ∈ s.expressions) => mem).2
  intro p inBody q isPart
  have isStatement := statements m mem p inBody q isPart
  exact ⟨fun _ => .statement isStatement,
    fun e direct part isPart _ => .expression (inside q isStatement e direct part isPart)⟩

/-! ## Offsets -/

theorem Expr.offset_bare (e : Expr) : e.bare.offset = e.offset := by
  cases e <;> rfl

theorem Stmt.offset_bare (s : Stmt) : s.bare.offset = s.offset := by
  cases s <;> rfl

theorem Expr.map_offset_bareAll (es : List Expr) : (Expr.bareAll es).map Expr.offset = es.map Expr.offset := by
  induction es with
  | nil => rfl
  | cons e es ih => simp [e.offset_bare, ih]

theorem Stmt.map_offset_bareAll (ss : List Stmt) : (Stmt.bareAll ss).map Stmt.offset = ss.map Stmt.offset := by
  induction ss with
  | nil => rfl
  | cons s ss ih => simp [s.offset_bare, ih]

/-- Expressions of the same bare forms have the same offsets. -/
theorem Expr.exists_offset_eq {es es' : List Expr} (same : Expr.bareAll es' = Expr.bareAll es) {e' : Expr}
    (mem : e' ∈ es') : ∃ e ∈ es, e.offset = e'.offset := by
  have offsets : es'.map Expr.offset = es.map Expr.offset := by
    rw [← Expr.map_offset_bareAll es', same, Expr.map_offset_bareAll]
  exact List.mem_map.mp (offsets ▸ List.mem_map_of_mem mem)

/-- Statements of the same bare forms have the same offsets. -/
theorem Stmt.exists_offset_eq {ss ss' : List Stmt} (same : Stmt.bareAll ss' = Stmt.bareAll ss) {s' : Stmt}
    (mem : s' ∈ ss') : ∃ s ∈ ss, s.offset = s'.offset := by
  have offsets : ss'.map Stmt.offset = ss.map Stmt.offset := by
    rw [← Stmt.map_offset_bareAll ss', same, Stmt.map_offset_bareAll]
  exact List.mem_map.mp (offsets ▸ List.mem_map_of_mem mem)

namespace Check

variable {α β : Type} {P : CheckError → Prop}

/-! ## Ending with problems of a sort -/

/-- That a check went through or ended with a problem of some sort. -/
def EndsIn (P : CheckError → Prop) : Except CheckError α → Prop
  | .ok _ => True
  | .error problem => P problem

namespace EndsIn

variable {τ : Type} {tree : τ} {problem : CheckError} {space : Space}

theorem of_error {x : Except CheckError α} (ends : EndsIn P x) (failed : x = .error problem) : P problem := by
  rw [failed] at ends
  exact ends

theorem of_pair {r : τ × Except CheckError α} (ends : EndsIn P r.2) (failed : r = (tree, .error problem)) :
    P problem := by
  rw [failed] at ends
  exact ends

theorem of_checked {c : Checked τ} (ends : EndsIn P c.result) (failed : c = ⟨space, tree, .error problem⟩) :
    P problem := by
  rw [failed] at ends
  exact ends

theorem bind {x : Except CheckError α} {f : α → Except CheckError β} (first : EndsIn P x)
    (others : ∀ a, EndsIn P (f a)) : EndsIn P (x >>= f) := by
  cases x with
  | ok a => exact others a
  | error problem => exact first

theorem mapM {f : α → Except CheckError β} (each : ∀ a, EndsIn P (f a)) (as : List α) : EndsIn P (as.mapM f) := by
  induction as with
  | nil =>
    rw [List.mapM_nil]
    trivial
  | cons a as ih =>
    rw [List.mapM_cons]
    exact (each a).bind fun _ => ih.bind fun _ => trivial

end EndsIn

/-- That all complaints at an offset are of some sort. -/
def AtOffset (P : CheckError → Prop) (offset : Nat) : Prop :=
  ∀ c, P (.complaint c offset)

theorem endsIn_require {offset : Nat} (here : AtOffset P offset) (wanted given : Ty) :
    EndsIn P (wanted.require given offset) := by
  unfold Ty.require
  split
  · trivial
  · exact here _

theorem endsIn_named {offset : Nat} (here : AtOffset P offset) (name : String) : EndsIn P (Ty.named name offset) := by
  unfold Ty.named
  split
  · trivial
  · exact here _

/-! ## Expressions -/

theorem endsIn_literalType {value : Value} {offset : Nat} {type : Option Ty}
    (answers : ∀ problem, (Expr.literal value offset type).Raises problem → P problem) :
    EndsIn P (literalType value offset) := by
  have here : AtOffset P offset := fun c => answers _ (.complaint (.literal value offset type) c)
  cases value with
  | int n =>
    unfold literalType
    dsimp only
    split
    next => trivial
    next =>
      split
      next => exact here _
      next textless =>
        refine answers _ (.unwritable ?_ offset type)
        rw [Value.inspect?]
        exact textless
  | dec d =>
    unfold literalType
    dsimp only
    split
    next => exact here _
    next => trivial
  | nil | bool | char | str => trivial
  | range | list | object =>
    unfold literalType
    dsimp only
    split
    next => exact here _
    next textless => exact answers _ (.unwritable textless offset type)

theorem endsIn_operationType {leftOffset rightOffset offset : Nat} (left : AtOffset P leftOffset)
    (right : AtOffset P rightOffset) (here : AtOffset P offset) (op : Operator) (leftType rightType : Ty) :
    EndsIn P (operationType op leftType rightType leftOffset rightOffset offset) := by
  have both : ∀ (wanted : Ty) (last : Except CheckError Ty), EndsIn P last →
      EndsIn P (do wanted.require leftType leftOffset; wanted.require rightType rightOffset; last) := by
    intro wanted last ends
    exact (endsIn_require left _ _).bind fun _ => (endsIn_require right _ _).bind fun _ => ends
  cases op with
  | and | or => exact both _ _ trivial
  | lt | le | gt | ge | eq | ne =>
    apply both
    split
    · trivial
    · exact here _
  | add | sub | mul | div =>
    unfold operationType
    dsimp only
    split
    · trivial
    · split
      · trivial
      · exact here _
  | other symbol => exact here _

theorem endsIn_requireAll {args : List Expr} (each : ∀ arg ∈ args, AtOffset P arg.offset) (params types : List Ty) :
    EndsIn P (requireAll args params types) := by
  fun_induction requireAll args params types with
  | case1 arg args wanted params given types ih =>
    obtain ⟨first, others⟩ := List.forall_mem_cons.mp each
    exact (endsIn_require first _ _).bind fun _ => ih others
  | case2 => trivial

section Settling

variable {phrase : SlottedPhrase}

theorem endsIn_settleType {slot : Option Ty} (settled : slot ≠ none → P (.alreadySettled phrase .type)) (t : Ty)
    (tree : Option Ty → Expr) : EndsIn P (settleType phrase slot t tree).2 := by
  cases slot with
  | none => trivial
  | some _ => exact settled (Option.some_ne_none _)

theorem endsIn_settleVariable {binding : Option Variable} {type : Option Ty}
    (settled : binding ≠ none ∨ type ≠ none → ∀ slot, P (.alreadySettled .access slot)) (v : Variable)
    (tree : Option Variable → Option Ty → Expr) : EndsIn P (settleVariable binding type v tree).2 := by
  cases binding with
  | none => exact endsIn_settleType (fun filled => settled (.inr filled) .type) _ _
  | some _ => exact settled (.inl (Option.some_ne_none _)) .binding

theorem endsIn_settleFunction {callee : Option Function} {type : Option Ty}
    (settled : callee ≠ none ∨ type ≠ none → ∀ slot, P (.alreadySettled .call slot)) (f : Function)
    (tree : Option Function → Option Ty → Expr) : EndsIn P (settleFunction callee type f tree).2 := by
  cases callee with
  | none => exact endsIn_settleType (fun filled => settled (.inr filled) .type) _ _
  | some _ => exact settled (.inl (Option.some_ne_none _)) .callee

end Settling

theorem offset_of_expr {catalog : Catalog} {space : Space} {scope : ScopeId} {e e' : Expr}
    {result : Except CheckError Ty} (checked : expr catalog space scope e = (e', result)) : e.offset = e'.offset := by
  have same := @bare_expr catalog space scope e
  rw [checked] at same
  rw [← e.offset_bare, ← e'.offset_bare, same]

variable (catalog : Catalog)

/-- The check leaves an expression where it is. -/
theorem atOffset_of_expr {space : Space} {scope : ScopeId} {e e' : Expr} {result : Except CheckError Ty}
    (answers : e.Answers P) (checked : expr catalog space scope e = (e', result)) : AtOffset P e'.offset := by
  rw [← offset_of_expr checked]
  exact fun c => answers e e.mem_parts_self _ (.complaint e c)

/-- The check leaves the arguments of a call where they are. -/
theorem atOffset_of_exprs {space : Space} {scope : ScopeId} {es es' : List Expr} {result : Except CheckError (List Ty)}
    (answers : ∀ e ∈ es, e.Answers P) (checked : exprs catalog space scope es = (es', result)) :
    ∀ e' ∈ es', AtOffset P e'.offset := by
  have same := @bare_exprs catalog space scope es
  rw [checked] at same
  intro e' mem c
  obtain ⟨e, mem, sameOffset⟩ := Expr.exists_offset_eq same mem
  rw [← sameOffset]
  exact answers e mem e e.mem_parts_self _ (.complaint e c)

mutual
theorem endsIn_expr (space : Space) (scope : ScopeId) (e : Expr) (answers : e.Answers P) :
    EndsIn P (expr catalog space scope e).2 := by
  have self := answers e e.mem_parts_self
  have here : AtOffset P e.offset := fun c => self _ (.complaint e c)
  cases e with
  | literal value offset type =>
    have typed := endsIn_literalType self
    rw [expr]
    split
    next failed => exact typed.of_error failed
    next =>
      refine endsIn_settleType (fun filled => self _ (.settled (fun same => ?_) ..)) _ _
      injection same with _ _ same
      exact filled same.symm
  | group inner offset type =>
    have inside := endsIn_expr space scope inner fun part mem => answers part (by simp [Expr.parts, mem])
    rw [expr]
    split
    next =>
      split
      next failed => exact inside.of_pair failed
      next =>
        refine endsIn_settleType (fun filled => self _ (.settled (fun same => ?_) ..)) _ _
        injection same with _ _ same
        exact filled same.symm
    next => exact here _
  | binary op left right offset type =>
    have answersLeft : left.Answers P := fun part mem => answers part (by simp [Expr.parts, mem])
    have answersRight : right.Answers P := fun part mem => answers part (by simp [Expr.parts, mem])
    have first := endsIn_expr space scope left answersLeft
    have second := endsIn_expr space scope right answersRight
    rw [expr]
    split
    next failed => exact first.of_pair failed
    next left' leftType checkedLeft =>
    split
    next failed => exact second.of_pair failed
    next right' rightType checkedRight =>
      have typed := endsIn_operationType (atOffset_of_expr catalog answersLeft checkedLeft)
        (atOffset_of_expr catalog answersRight checkedRight) here op leftType rightType
      split
      next failed => exact typed.of_error failed
      next =>
        refine endsIn_settleType (fun filled => self _ (.settled (fun same => ?_) ..)) _ _
        injection same with _ _ _ _ same
        exact filled same.symm
  | ref name offset binding type =>
    rw [expr]
    split
    next => exact here _
    next =>
      refine endsIn_settleVariable (fun filled slot => self _ (.settled (fun same => ?_) _ slot)) _ _
      injection same with _ _ sameBinding sameType
      exact filled.elim (· sameBinding.symm) (· sameType.symm)
  | field receiver name offset binding type =>
    have object := endsIn_expr space scope receiver fun part mem => answers part (by simp [Expr.parts, mem])
    rw [expr]
    split
    next failed => exact object.of_pair failed
    next =>
    split
    next => exact here _
    next =>
      refine endsIn_settleVariable (fun filled slot => self _ (.settled (fun same => ?_) _ slot)) _ _
      injection same with _ _ _ sameBinding sameType
      exact filled.elim (· sameBinding.symm) (· sameType.symm)
  | call name args offset callee type =>
    have answersArgs : ∀ arg ∈ args, arg.Answers P :=
      Expr.forall_partsAll.mp fun part mem => answers part (by simp [Expr.parts, mem])
    have given := endsIn_exprs space scope args answersArgs
    rw [expr]
    split
    next failed => exact given.of_pair failed
    next args' types checked =>
    split
    next => exact here _
    next f _ =>
      have accepted := endsIn_requireAll (atOffset_of_exprs catalog answersArgs checked) f.params types
      split
      next failed => exact accepted.of_error failed
      next =>
        refine endsIn_settleFunction (fun filled slot => self _ (.settled (fun same => ?_) _ slot)) _ _
        injection same with _ _ _ sameCallee sameType
        exact filled.elim (· sameCallee.symm) (· sameType.symm)
  | send receiver name args offset callee type =>
    have answersArgs : ∀ arg ∈ args, arg.Answers P :=
      Expr.forall_partsAll.mp fun part mem => answers part (by simp [Expr.parts, mem])
    have given := endsIn_exprs space scope args answersArgs
    have object := endsIn_expr space scope receiver fun part mem => answers part (by simp [Expr.parts, mem])
    rw [expr]
    split
    next failed => exact given.of_pair failed
    next args' types checked =>
    split
    next failed => exact object.of_pair failed
    next =>
    split
    next => exact here _
    next f _ =>
      have accepted := endsIn_requireAll (atOffset_of_exprs catalog answersArgs checked) (f.params.drop 1) types
      split
      next failed => exact accepted.of_error failed
      next =>
        refine endsIn_settleFunction (fun filled slot => self _ (.settled (fun same => ?_) _ slot)) _ _
        injection same with _ _ _ _ sameCallee sameType
        exact filled.elim (· sameCallee.symm) (· sameType.symm)
  | unknown offset => exact self _ (.unknown offset)

theorem endsIn_exprs (space : Space) (scope : ScopeId) (es : List Expr) (answers : ∀ e ∈ es, e.Answers P) :
    EndsIn P (exprs catalog space scope es).2 := by
  cases es with
  | nil => trivial
  | cons e es =>
    obtain ⟨answersFirst, answersOthers⟩ := List.forall_mem_cons.mp answers
    have first := endsIn_expr space scope e answersFirst
    have others := endsIn_exprs space scope es answersOthers
    rw [exprs]
    split
    next failed => exact first.of_pair failed
    next =>
    split
    next failed => exact others.of_pair failed
    next => trivial
end

/-! ## Statements -/

theorem endsIn_condition (space : Space) (scope : ScopeId) {e : Expr} (answers : e.Answers P) :
    EndsIn P (condition catalog space scope e).2 := by
  have inside := endsIn_expr catalog space scope e answers
  unfold condition
  split
  next failed => exact inside.of_pair failed
  next checked => exact endsIn_require (atOffset_of_expr catalog answers checked) _ _

theorem endsIn_bindDeclaration {offset : Nat} {binding : Option Variable} (here : AtOffset P offset)
    (settled : binding ≠ none → P (.alreadySettled .declaration .binding)) (space : Space) (scope : ScopeId)
    (name : String) (type : Ty) (tree : Option Variable → Stmt) :
    EndsIn P (bindDeclaration space scope name type offset binding tree).result := by
  unfold bindDeclaration
  split
  next => exact here _
  next =>
    cases binding with
    | none => trivial
    | some _ => exact settled (Option.some_ne_none _)

theorem endsIn_declaredType {typeName : Option String} {value : Option (Ty × Nat)} {offset : Nat}
    {type : Except CheckError Ty} (here : AtOffset P offset) (there : ∀ given ∈ value, AtOffset P given.2)
    (declared : declaredType typeName value offset = some type) : EndsIn P type := by
  unfold declaredType at declared
  split at declared
  next => cases declared
  next =>
    cases declared
    trivial
  next =>
    cases declared
    exact endsIn_named here _
  next =>
    cases declared
    exact (endsIn_named here _).bind fun _ => (endsIn_require (there _ rfl) _ _).bind fun _ => trivial

theorem endsIn_declaration {initializer : Option Expr} {offset : Nat} {binding : Option Variable}
    (here : AtOffset P offset) (settled : binding ≠ none → P (.alreadySettled .declaration .binding))
    (answers : ∀ e ∈ initializer, e.Answers P) (space : Space) (scope : ScopeId) (name : String)
    (typeName : Option String) :
    EndsIn P (declaration catalog space scope name typeName initializer offset binding).result := by
  unfold declaration
  cases initializer with
  | none =>
    dsimp only
    split
    next => exact here _
    next declared => exact endsIn_declaredType here (fun _ absent => by cases absent) declared
    next => exact endsIn_bindDeclaration here settled _ _ _ _ _
  | some value =>
    have inside := endsIn_expr catalog space scope value (answers value rfl)
    dsimp only
    split
    next failed => exact inside.of_pair failed
    next value' given checked =>
      have there : ∀ pair ∈ some (given, value'.offset), AtOffset P pair.2 := by
        rintro _ ⟨⟩
        exact atOffset_of_expr catalog (answers value rfl) checked
      split
      next => exact here _
      next declared => exact endsIn_declaredType here there declared
      next => exact endsIn_bindDeclaration here settled _ _ _ _ _

theorem endsIn_assignment {target value : Expr} {offset : Nat} (here : AtOffset P offset)
    (answersTarget : target.Answers P) (answersValue : value.Answers P) (space : Space) (scope : ScopeId) :
    EndsIn P (assignment catalog space scope target value offset).result := by
  have left := endsIn_expr catalog space scope target answersTarget
  have right := endsIn_expr catalog space scope value answersValue
  unfold assignment
  split
  next =>
    split
    next failed => exact left.of_pair failed
    next =>
    split
    next failed => exact right.of_pair failed
    next checked => exact endsIn_require (atOffset_of_expr catalog answersValue checked) _ _
  next => exact here _

mutual
theorem endsIn_stmt (space : Space) (scope : ScopeId) (s : Stmt) (answers : s.Answers P) :
    EndsIn P (stmt catalog space scope s).result := by
  obtain ⟨self, direct⟩ := answers s s.mem_parts_self
  have here : AtOffset P s.offset := fun c => self _ (.complaint s c)
  cases s with
  | expression e offset =>
    have inside := endsIn_expr catalog space scope e (direct e (by simp [Stmt.exprs]))
    rw [stmt]
    split
    next =>
      split
      next failed => exact inside.of_pair failed
      next => trivial
    next => exact here _
  | declaration name typeName initializer offset binding =>
    rw [stmt]
    apply endsIn_declaration catalog here
    · intro filled
      refine self _ (.settled (fun same => ?_) ..)
      injection same with _ _ _ _ same
      exact filled same.symm
    · exact fun e isValue => direct e (Option.mem_toList.mpr isValue)
  | assignment target value offset =>
    rw [stmt]
    exact endsIn_assignment catalog here (direct target List.mem_cons_self)
      (direct value (List.mem_cons_of_mem _ List.mem_cons_self)) _ _
  | conditional c thenPart elsePart offset =>
    have tested := endsIn_condition catalog space scope (direct c (by simp [Stmt.exprs]))
    have answersThen : ∀ s ∈ thenPart, s.Answers P :=
      Stmt.forall_partsAll.mp fun p mem => answers p (by simp [Stmt.parts, mem])
    have answersElse : ∀ s ∈ elsePart, s.Answers P :=
      Stmt.forall_partsAll.mp fun p mem => answers p (by simp [Stmt.parts, mem])
    have first := endsIn_block (space.child scope).1 (space.child scope).2 thenPart answersThen
    rw [stmt]
    split
    next failed => exact tested.of_pair failed
    next =>
    split
    next => exact here _
    next =>
      dsimp only
      split
      next failed => exact first.of_checked failed
      next => exact endsIn_block _ _ elsePart answersElse
  | forEach name iterable body offset =>
    have answersIterable := direct iterable (by simp [Stmt.exprs])
    have iterates := endsIn_expr catalog space scope iterable answersIterable
    have answersBody : ∀ s ∈ body, s.Answers P :=
      Stmt.forall_partsAll.mp fun p mem => answers p (by simp [Stmt.parts, mem])
    rw [stmt]
    split
    next failed => exact iterates.of_pair failed
    next checked =>
    split
    next => exact atOffset_of_expr catalog answersIterable checked _
    next =>
    split
    next => exact here _
    next =>
      dsimp only
      split
      next => exact here _
      next => exact endsIn_block _ _ body answersBody
  | whileLoop c body offset =>
    have tested := endsIn_condition catalog space scope (direct c (by simp [Stmt.exprs]))
    have answersBody : ∀ s ∈ body, s.Answers P :=
      Stmt.forall_partsAll.mp fun p mem => answers p (by simp [Stmt.parts, mem])
    rw [stmt]
    split
    next failed => exact tested.of_pair failed
    next => exact endsIn_block _ _ body answersBody
  | ret value offset =>
    have given := endsIn_expr catalog space scope value (direct value (by simp [Stmt.exprs]))
    rw [stmt]
    split
    next failed => exact given.of_pair failed
    next => trivial
  | unknown offset =>
    rw [stmt]
    exact self _ (.unknown offset)

theorem endsIn_block (space : Space) (scope : ScopeId) (ss : List Stmt) (answers : ∀ s ∈ ss, s.Answers P) :
    EndsIn P (block catalog space scope ss).result := by
  cases ss with
  | nil =>
    rw [block]
    trivial
  | cons s ss =>
    obtain ⟨answersFirst, answersOthers⟩ := List.forall_mem_cons.mp answers
    have first := endsIn_stmt space scope s answersFirst
    rw [block]
    split
    next failed => exact first.of_checked failed
    next => exact endsIn_block _ scope ss answersOthers
end

/-! ## Programs -/

theorem endsIn_initializer {value : Option Expr} (answers : ∀ e ∈ value, e.Answers P) (space : Space)
    (scope : ScopeId) (wanted : Ty) : EndsIn P (initializer catalog space scope wanted value).2 := by
  cases value with
  | none => trivial
  | some e =>
    have inside := endsIn_expr catalog space scope e (answers e rfl)
    rw [initializer]
    split
    next failed => exact inside.of_pair failed
    next checked => exact endsIn_require (atOffset_of_expr catalog (answers e rfl) checked) _ _

theorem endsIn_field {f : Field} (self : ∀ problem, f.Raises problem → P problem)
    (answers : ∀ e ∈ f.initializer, e.Answers P) (space : Space) (scope : ScopeId) :
    EndsIn P (field catalog space scope f).result := by
  have here : AtOffset P f.offset := fun c => self _ (.complaint c)
  have named := endsIn_named here f.typeName
  unfold field
  split
  next failed => exact named.of_error failed
  next wanted _ =>
    have inside := endsIn_initializer catalog answers space scope wanted
    split
    next failed => exact inside.of_pair failed
    next =>
      dsimp only
      split
      next => exact here _
      next =>
        cases settled : f.binding with
        | none => trivial
        | some v =>
          refine self _ (.settled (fun same => ?_) ..)
          rw [← same] at settled
          cases settled

theorem endsIn_signature {m : Method} (here : AtOffset P m.offset) : EndsIn P (signature m) := by
  unfold signature
  apply (EndsIn.mapM (fun _ => endsIn_named here _) m.params).bind
  intro params
  cases m.resultTypeName with
  | none => trivial
  | some name => exact (endsIn_named here _).bind fun _ => trivial

theorem endsIn_bindParams {offset : Nat} (here : AtOffset P offset) (space : Space) (scope : ScopeId)
    (params : List (String × Ty)) : EndsIn P (bindParams space scope offset params).2 := by
  induction params generalizing space with
  | nil => trivial
  | cons param params ih =>
    rw [bindParams]
    split
    next => exact here _
    next => exact ih _

theorem endsIn_requireResults {ss : List Stmt} (each : ∀ s ∈ ss, AtOffset P s.offset) (result : Ty) :
    EndsIn P (requireResults result ss) := by
  induction ss with
  | nil => trivial
  | cons s ss ih =>
    obtain ⟨first, others⟩ := List.forall_mem_cons.mp each
    cases s with
    | ret value offset =>
      rw [requireResults]
      cases value.type? with
      | some given => exact (endsIn_require first _ _).bind fun _ => ih others
      | none => exact ih others
    | _ => exact ih others

theorem endsIn_methodBody {m : Method} (here : AtOffset P m.offset) (answers : ∀ s ∈ m.body, s.Answers P)
    (space : Space) (scope : ScopeId) (params : List Ty) (result : Ty) :
    EndsIn P (methodBody catalog space scope params result m).result := by
  have bound := endsIn_bindParams here (space.child scope).1 (space.child scope).2
    ((m.params.map Param.name).zip params)
  unfold methodBody
  dsimp only
  split
  next failed => exact bound.of_pair failed
  next between _ =>
    have inside := endsIn_block catalog between (space.child scope).2 m.body answers
    have same := @bare_block catalog between (space.child scope).2 m.body
    split
    next failed => exact inside.of_checked failed
    next checked =>
      rw [checked] at same
      dsimp only
      split
      next => trivial
      next =>
        apply endsIn_requireResults
        intro s' mem c
        obtain ⟨s, mem, sameOffset⟩ := Stmt.exists_offset_eq same mem
        rw [← sameOffset]
        exact (answers s mem s s.mem_parts_self).1 _ (.complaint s c)

theorem endsIn_method {m : Method} (self : ∀ problem, m.Raises problem → P problem)
    (answers : ∀ s ∈ m.body, s.Answers P) (space : Space) (scope : ScopeId) :
    EndsIn P (method catalog space scope m).result := by
  have here : AtOffset P m.offset := fun c => self _ (.complaint c)
  have signed := endsIn_signature here
  unfold method
  split
  next failed => exact signed.of_error failed
  next =>
    split
    next => exact here _
    next f _ =>
      cases settled : m.callee with
      | none => exact @endsIn_methodBody _ catalog { m with callee := some f } here answers _ _ _ _
      | some g =>
        refine self _ (.settled (fun same => ?_) ..)
        rw [← same] at settled
        cases settled

theorem endsIn_each {τ : Type} {check : Space → τ → Checked τ} {xs : List τ}
    (ends : ∀ x ∈ xs, ∀ space, EndsIn P (check space x).result) (space : Space) :
    EndsIn P (each check space xs).result := by
  induction xs generalizing space with
  | nil => trivial
  | cons x xs ih =>
    obtain ⟨first, others⟩ := List.forall_mem_cons.mp ends
    rw [each]
    split
    next failed => exact (first space).of_checked failed
    next => exact ih others _

theorem endsIn_requireMain (here : AtOffset P 0) (space : Space) (scope : ScopeId) :
    EndsIn P (requireMain space scope) := by
  unfold requireMain
  split
  next => exact here _
  next => exact endsIn_require here _ _

theorem endsIn_source (needsMain : Bool) (space : Space) (scope : ScopeId) (s : Source) :
    EndsIn s.Raises (source catalog needsMain space scope s).result := by
  have fields := endsIn_each (fun f mem space =>
    endsIn_field catalog (fun _ => .field mem) (s.answers_initializer mem) space scope) space
  unfold source
  split
  next failed => exact fields.of_checked failed
  next between _ _ =>
    have methods := endsIn_each (fun m mem space =>
      endsIn_method catalog (fun _ => .method mem) (s.answers_body mem) space scope) between
    split
    next failed => exact methods.of_checked failed
    next =>
      dsimp only
      split
      next => exact endsIn_requireMain .complaint _ _
      next => trivial

end Check

/-- The check of a program ends early only with what the program raises. -/
theorem raises_of_checkSource {catalog : Catalog} {needsMain : Bool} {space : Space} {outer : ScopeId} {s : Source}
    {problem : CheckError} (failed : (checkSource catalog needsMain space outer s).result = .error problem) :
    s.Raises problem :=
  (Check.endsIn_source catalog needsMain _ _ s).of_error failed

end Primer
