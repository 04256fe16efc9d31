import Primer.CommandLine.Program
import Primer.Proofs.Check.Bare
import Primer.Proofs.Check.Filled
import Primer.Proofs.Java.Printed

/-!
# What can be written as Java

Writing reads some slots and all literals. A program can be written if and only if none of those slots is empty,
each literal has a text, and every phrase is of a known form (`Java.exists_source_eq_ok_iff`). This is said of each
phrase by itself, and nothing of it is about checks.

**The law** (`checked_source_can_be_written`) puts this together with what a passed check leaves behind: the tree
is the one that was checked but for its slots, no slot is empty, and the tree can be written.

**What it does not establish.** That the stack of a host is deep enough to check and to write a program whose phrases
are nested deeply. What happens otherwise is up to the host (`Host.checks`, `Host.writes`).
-/

namespace Primer

/-- That an expression can be written as far as it depends on the expression itself. -/
def Expr.Writable : Expr → Prop
  | .literal value _ _ => ∃ text, Java.literal value = .ok text
  | .group .. | .binary .. => True
  | .ref _ _ binding _ | .field _ _ _ binding _ => binding.isSome
  | .call _ _ _ callee _ | .send _ _ _ _ callee _ => callee.isSome
  | .unknown _ => False

/-- That a statement can be written as far as it depends on its form, its slot and the expressions in it. -/
def Stmt.Writable (s : Stmt) : Prop :=
  s.filled ∧ ∀ e ∈ s.exprs, ∀ part ∈ e.parts, part.Writable

/-- That all phrases of a program can be written. -/
structure Source.Writable (s : Source) : Prop where
  fields : ∀ f ∈ s.fields, f.binding.isSome ∧ ∀ e ∈ f.initializer.toList, ∀ part ∈ e.parts, part.Writable
  methods : ∀ m ∈ s.methods, m.callee.isSome ∧ ∀ p ∈ Stmt.partsAll m.body, p.Writable

namespace Java

theorem exists_settled_eq_ok_iff {α : Type} {slot : Option α} : (∃ a, settled slot = .ok a) ↔ slot.isSome := by
  cases slot with
  | none => simp [settled]
  | some a => simp [settled]

/-! ## Expressions -/

mutual
theorem exists_expr_eq_ok_iff (e : Expr) : (∃ text, expr e = .ok text) ↔ ∀ part ∈ e.parts, part.Writable := by
  cases e with
  | literal value offset type =>
    rw [expr, Expr.parts, List.forall_mem_singleton]
    rfl
  | group inner offset type =>
    rw [expr, Expr.parts, List.forall_mem_cons, ← exists_expr_eq_ok_iff inner, Except.exists_bind_pure_eq_ok_iff]
    exact (true_and _).symm.to_iff
  | binary op left right offset type =>
    rw [expr, Expr.parts, List.forall_mem_cons, List.forall_mem_append, ← exists_expr_eq_ok_iff left,
      ← exists_expr_eq_ok_iff right]
    refine (Except.exists_bind_eq_ok_iff fun _ => Except.exists_bind_pure_eq_ok_iff).trans ?_
    exact (true_and _).symm.to_iff
  | ref name offset binding type =>
    rw [expr, Expr.parts, List.forall_mem_singleton, Except.exists_bind_pure_eq_ok_iff]
    exact exists_settled_eq_ok_iff
  | field receiver name offset binding type =>
    rw [expr, Expr.parts, List.forall_mem_cons, ← exists_expr_eq_ok_iff receiver]
    refine (Except.exists_bind_eq_ok_iff fun _ => Except.exists_bind_pure_eq_ok_iff).trans ?_
    rw [exists_settled_eq_ok_iff]
    exact And.comm
  | call name args offset callee type =>
    rw [expr, Expr.parts, List.forall_mem_cons, ← exists_exprs_eq_ok_iff args]
    refine (Except.exists_bind_eq_ok_iff fun _ => Except.exists_bind_pure_eq_ok_iff).trans ?_
    rw [exists_settled_eq_ok_iff]
    rfl
  | send receiver name args offset callee type =>
    rw [expr, Expr.parts, List.forall_mem_cons, List.forall_mem_append, ← exists_expr_eq_ok_iff receiver,
      ← exists_exprs_eq_ok_iff args]
    refine (Except.exists_bind_eq_ok_iff fun _ => Except.exists_bind_eq_ok_iff fun _ =>
      Except.exists_bind_pure_eq_ok_iff).trans ?_
    rw [exists_settled_eq_ok_iff]
    exact and_left_comm
  | unknown offset =>
    rw [expr, Expr.parts, List.forall_mem_singleton]
    exact ⟨fun ⟨_, written⟩ => (nomatch written), False.elim⟩

theorem exists_exprs_eq_ok_iff (es : List Expr) :
    (∃ texts, exprs es = .ok texts) ↔ ∀ part ∈ Expr.partsAll es, part.Writable := by
  cases es with
  | nil =>
    rw [exprs, Expr.partsAll]
    exact ⟨fun _ _ mem => (nomatch mem), fun _ => ⟨[], rfl⟩⟩
  | cons e es =>
    rw [exprs, Expr.partsAll, List.forall_mem_append, ← exists_expr_eq_ok_iff e, ← exists_exprs_eq_ok_iff es]
    exact Except.exists_bind_eq_ok_iff fun _ => Except.exists_bind_pure_eq_ok_iff
end

/-! ## Statements -/

theorem exists_declaration_eq_ok_iff {binding : Option Variable} {initializer : Option Expr} :
    (∃ text, declaration binding initializer = .ok text) ↔
      binding.isSome ∧ ∀ e ∈ initializer.toList, ∀ part ∈ e.parts, part.Writable := by
  rw [← exists_settled_eq_ok_iff]
  refine Except.exists_bind_eq_ok_iff fun v => ?_
  cases initializer with
  | none => exact ⟨fun _ _ mem => (nomatch mem), fun _ => ⟨_, rfl⟩⟩
  | some e =>
    rw [Option.toList_some, List.forall_mem_singleton, ← exists_expr_eq_ok_iff e]
    exact Except.exists_bind_pure_eq_ok_iff

mutual
theorem exists_stmt_eq_ok_iff (depth : Nat) (s : Stmt) :
    (∃ text, stmt depth s = .ok text) ↔ ∀ p ∈ s.parts, p.Writable := by
  cases s with
  | expression e offset =>
    rw [stmt, Stmt.parts, List.forall_mem_singleton, Stmt.Writable, Stmt.exprs, List.forall_mem_singleton,
      ← exists_expr_eq_ok_iff e, Except.exists_bind_pure_eq_ok_iff]
    exact (and_iff_right rfl).symm
  | declaration name typeName initializer offset binding =>
    rw [stmt, Stmt.parts, List.forall_mem_singleton, Stmt.Writable, Stmt.exprs]
    exact exists_declaration_eq_ok_iff
  | assignment target value offset =>
    rw [stmt, Stmt.parts, List.forall_mem_singleton, Stmt.Writable, Stmt.exprs, List.forall_mem_cons,
      List.forall_mem_singleton, ← exists_expr_eq_ok_iff target, ← exists_expr_eq_ok_iff value]
    refine (Except.exists_bind_eq_ok_iff fun _ => Except.exists_bind_pure_eq_ok_iff).trans ?_
    exact (and_iff_right rfl).symm
  | conditional c thenPart elsePart offset =>
    rw [stmt, Stmt.parts, List.forall_mem_cons, List.forall_mem_append, Stmt.Writable, Stmt.exprs,
      List.forall_mem_singleton, ← exists_expr_eq_ok_iff c, ← exists_block_eq_ok_iff depth thenPart,
      ← exists_block_eq_ok_iff depth elsePart]
    simp only [Stmt.filled, true_and]
    refine Except.exists_bind_eq_ok_iff fun _ => Except.exists_bind_eq_ok_iff fun _ => ?_
    cases elsePart with
    | nil =>
      rw [block]
      exact ⟨fun _ => ⟨_, rfl⟩, fun _ => ⟨_, rfl⟩⟩
    | cons s ss => exact Except.exists_bind_pure_eq_ok_iff
  | forEach name iterable body offset =>
    rw [stmt, Stmt.parts, List.forall_mem_cons, Stmt.Writable, Stmt.exprs, List.forall_mem_singleton,
      ← exists_expr_eq_ok_iff iterable, ← exists_block_eq_ok_iff depth body]
    simp only [Stmt.filled, true_and]
    exact Except.exists_bind_eq_ok_iff fun _ => Except.exists_bind_pure_eq_ok_iff
  | whileLoop c body offset =>
    rw [stmt, Stmt.parts, List.forall_mem_cons, Stmt.Writable, Stmt.exprs, List.forall_mem_singleton,
      ← exists_expr_eq_ok_iff c, ← exists_block_eq_ok_iff depth body]
    simp only [Stmt.filled, true_and]
    exact Except.exists_bind_eq_ok_iff fun _ => Except.exists_bind_pure_eq_ok_iff
  | ret value offset =>
    rw [stmt, Stmt.parts, List.forall_mem_singleton, Stmt.Writable, Stmt.exprs, List.forall_mem_singleton,
      ← exists_expr_eq_ok_iff value, Except.exists_bind_pure_eq_ok_iff]
    exact (and_iff_right rfl).symm
  | unknown offset =>
    rw [stmt, Stmt.parts, List.forall_mem_singleton]
    exact ⟨fun ⟨_, written⟩ => (nomatch written), fun ⟨known, _⟩ => (nomatch known)⟩

theorem exists_block_eq_ok_iff (depth : Nat) (ss : List Stmt) :
    (∃ text, block depth ss = .ok text) ↔ ∀ p ∈ Stmt.partsAll ss, p.Writable := by
  cases ss with
  | nil =>
    rw [block, Stmt.partsAll]
    exact ⟨fun _ _ mem => (nomatch mem), fun _ => ⟨_, rfl⟩⟩
  | cons s ss =>
    rw [block, Stmt.partsAll, List.forall_mem_append, ← exists_stmt_eq_ok_iff (depth + 1) s,
      ← exists_lines_eq_ok_iff (depth + 1) ss]
    exact Except.exists_bind_eq_ok_iff fun _ => Except.exists_bind_pure_eq_ok_iff

theorem exists_lines_eq_ok_iff (depth : Nat) (ss : List Stmt) :
    (∃ text, lines depth ss = .ok text) ↔ ∀ p ∈ Stmt.partsAll ss, p.Writable := by
  cases ss with
  | nil =>
    rw [lines, Stmt.partsAll]
    exact ⟨fun _ _ mem => (nomatch mem), fun _ => ⟨_, rfl⟩⟩
  | cons s ss =>
    rw [lines, Stmt.partsAll, List.forall_mem_append, ← exists_stmt_eq_ok_iff depth s,
      ← exists_lines_eq_ok_iff depth ss]
    exact Except.exists_bind_eq_ok_iff fun _ => Except.exists_bind_pure_eq_ok_iff
end

/-! ## Programs -/

theorem exists_method_eq_ok_iff {depth : Nat} {m : Method} :
    (∃ text, method depth m = .ok text) ↔ m.callee.isSome ∧ ∀ p ∈ Stmt.partsAll m.body, p.Writable := by
  rw [← exists_settled_eq_ok_iff, ← exists_block_eq_ok_iff depth]
  exact Except.exists_bind_eq_ok_iff fun _ => Except.exists_bind_pure_eq_ok_iff

theorem exists_fields_eq_ok_iff {fs : List Field} :
    (∃ text, fields fs = .ok text) ↔ ∀ f ∈ fs, f.binding.isSome ∧
      ∀ e ∈ f.initializer.toList, ∀ part ∈ e.parts, part.Writable := by
  cases fs with
  | nil => exact ⟨fun _ _ mem => (nomatch mem), fun _ => ⟨_, rfl⟩⟩
  | cons f fs =>
    refine Except.exists_bind_pure_eq_ok_iff.trans (Except.exists_mapM_eq_ok_iff.trans ?_)
    exact forall₂_congr fun _ _ => exists_declaration_eq_ok_iff

/-- A program can be written if and only if all its phrases can. -/
theorem exists_source_eq_ok_iff {s : Source} : (∃ text, source s = .ok text) ↔ s.Writable := by
  refine (Except.exists_bind_eq_ok_iff fun _ => Except.exists_bind_pure_eq_ok_iff).trans ?_
  rw [exists_fields_eq_ok_iff, Except.exists_mapM_eq_ok_iff]
  have methods : (∀ m ∈ s.methods, ∃ text, method 1 m = .ok text) ↔
      ∀ m ∈ s.methods, m.callee.isSome ∧ ∀ p ∈ Stmt.partsAll m.body, p.Writable :=
    forall₂_congr fun _ _ => exists_method_eq_ok_iff
  rw [methods]
  exact ⟨fun ⟨fields, methods⟩ => ⟨fields, methods⟩, fun ⟨fields, methods⟩ => ⟨fields, methods⟩⟩

end Java

/-! ## Programs that passed the check -/

/-- A settled expression can be written: a literal that has a type has a text. -/
theorem Context.Types.writable {c : Context} {e : Expr} {t : Ty} (typed : c.Types e t) : e.Writable := by
  cases typed with
  | literal typed =>
    obtain ⟨text, written, -⟩ := Java.printed_literal typed
    exact ⟨text, written⟩
  | group | binary => trivial
  | ref | field | call | send => rfl

/-- What is settled everywhere can be written. -/
theorem Source.Settled.writable {s : Source} (settled : s.Settled) : s.Writable where
  fields f mem := by
    refine ⟨settled.fields f mem, fun e initial part isPart => ?_⟩
    obtain ⟨c, t, typed⟩ := settled.expressions part (List.mem_append_left _ (List.mem_flatMap.mpr
      ⟨f, mem, List.mem_flatMap.mpr ⟨e, initial, isPart⟩⟩))
    exact typed.writable
  methods m mem := by
    refine ⟨settled.methods m mem, fun p inside => ?_⟩
    have isStatement : p ∈ s.statements := List.mem_flatMap.mpr ⟨m, mem, inside⟩
    refine ⟨settled.filled.statements p isStatement, fun e direct part isPart => ?_⟩
    obtain ⟨c, t, typed⟩ := settled.expressions part (List.mem_append_right _ (List.mem_flatMap.mpr
      ⟨p, isStatement, List.mem_flatMap.mpr ⟨e, direct, isPart⟩⟩))
    exact typed.writable

/-- A program that passes the check is the one that was checked but for its slots, has no empty slot, and can be written
as Java. -/
theorem checked_source_can_be_written {catalog : Catalog} {needsMain : Bool} {space : Space} {outer : ScopeId}
    {s : Source} (passed : (checkSource catalog needsMain space outer s).result = .ok ()) :
    (checkSource catalog needsMain space outer s).tree.bare = s.bare ∧
      (checkSource catalog needsMain space outer s).tree.Filled ∧
      ∃ text, Java.source (checkSource catalog needsMain space outer s).tree = .ok text := by
  have settled := Check.settled_checkSource passed
  refine ⟨Check.bare_checkSource catalog needsMain space outer s, settled.filled, ?_⟩
  exact Java.exists_source_eq_ok_iff.mpr settled.writable

open CommandLine (rootWorld)

/-- A program with a field, a loop, a condition and a call. -/
def countUp : Source where
  fields := [{ name := "limit", typeName := "Integer", initializer := some (.literal (.int 3) 21), offset := 0 }]
  methods := [{
    name := "main", params := [], resultTypeName := some "Integer", offset := 24
    body := [
      .declaration "n" none (some (.literal (.int 0) 56)) 48,
      .whileLoop (.binary .lt (.ref "n" 65) (.ref "limit" 69) 65) [
        .expression (.call "print" [.ref "n" 84] 78) 78,
        .assignment (.ref "n" 88) (.binary .add (.ref "n" 92) (.literal (.int 1) 96) 92) 88] 59,
      .conditional (.binary .eq (.ref "n" 106) (.ref "limit" 111) 106) [.ret (.ref "n" 127) 120] [] 103,
      .ret (.literal (.int (-1)) 141) 134] }]

theorem countUp_can_be_written :
    countUp.bare = countUp ∧ (checkSource {} true rootWorld.1.space rootWorld.2 countUp).result = .ok () ∧
      (checkSource {} true rootWorld.1.space rootWorld.2 countUp).tree.bare = countUp ∧
      (checkSource {} true rootWorld.1.space rootWorld.2 countUp).tree.Filled ∧
      ∃ text, Java.source (checkSource {} true rootWorld.1.space rootWorld.2 countUp).tree = .ok text := by
  have passed : (checkSource {} true rootWorld.1.space rootWorld.2 countUp).result = .ok () := by decide +kernel
  obtain ⟨same, filled, written⟩ := checked_source_can_be_written passed
  exact ⟨rfl, passed, same, filled, written⟩

end Primer
