import Primer.Proofs.Check.Culprits
import Primer.Proofs.Tree.Fresh

/-!
# Checks of fresh trees end with complaints

A check can end for a reason that is no matter of the program: a slot that is settled already, a phrase of no
known form, or an integer that is too long to be shown. A fresh tree gives it none of these reasons.

**The law** (`complains_checkSource`): the check of a fresh program whose literals have a text goes through, or it
ends with a complaint.

Whatever ends the check is raised by one of the phrases of the program as it was read, and every phrase of a fresh
program is fresh. So the law asks only what a fresh phrase raises, and nothing of the space.
-/

namespace Primer

/-- That what ended a check is about the program. -/
def CheckError.IsComplaint : CheckError → Prop
  | complaint .. => True
  | _ => False

namespace Check

variable {α : Type}

/-- That a check went through or ended with a complaint. -/
def Complains : Except CheckError α → Prop
  | .ok _ => True
  | .error problem => problem.IsComplaint

theorem Complains.of_error {x : Except CheckError α} {problem : CheckError} (complains : Complains x)
    (failed : x = .error problem) : problem.IsComplaint := by
  rw [failed] at complains
  exact complains

end Check

/-! ## Fresh phrases -/

namespace Expr.Fresh

theorem of_mem_parts {e : Expr} (fresh : e.Fresh) : ∀ part ∈ e.parts, part.Fresh := by
  induction fresh with
  | literal sort => exact List.forall_mem_singleton.mpr (.literal sort)
  | group inside ih => exact List.forall_mem_cons.mpr ⟨.group inside, ih⟩
  | binary known left right first second =>
    exact List.forall_mem_cons.mpr ⟨.binary known left right, List.forall_mem_append.mpr ⟨first, second⟩⟩
  | ref => exact List.forall_mem_singleton.mpr .ref
  | field inside ih => exact List.forall_mem_cons.mpr ⟨.field inside, ih⟩
  | call given ih => exact List.forall_mem_cons.mpr ⟨.call given, Expr.forall_partsAll.mpr ih⟩
  | send inside given object ih =>
    exact List.forall_mem_cons.mpr
      ⟨.send inside given, List.forall_mem_append.mpr ⟨object, Expr.forall_partsAll.mpr ih⟩⟩

/-- A fresh expression raises nothing but complaints. -/
theorem isComplaint_of_raises {e : Expr} {problem : CheckError} (fresh : e.Fresh)
    (raises : e.Raises problem) : problem.IsComplaint := by
  cases raises with
  | complaint => trivial
  | settled filled => exact absurd fresh.bare_eq filled
  | unknown => cases fresh
  | @unwritable value textless =>
    cases fresh with
    | literal sort =>
      obtain ⟨plain, text, written⟩ := sort
      cases value with
      | int n =>
        rw [Value.display?_int] at written
        rw [Value.inspect?, written] at textless
        cases textless
      | nil | bool | dec | char | str =>
        rw [Value.inspect?] at textless
        cases textless
      | range | list | object => exact plain.elim

end Expr.Fresh

namespace Stmt.Fresh

theorem of_mem_parts {s : Stmt} (fresh : s.Fresh) : ∀ p ∈ s.parts, p.Fresh := by
  induction fresh with
  | expression inside => exact List.forall_mem_singleton.mpr (.expression inside)
  | declaration inside => exact List.forall_mem_singleton.mpr (.declaration inside)
  | assignment left right => exact List.forall_mem_singleton.mpr (.assignment left right)
  | conditional tested thenPart elsePart first second =>
    exact List.forall_mem_cons.mpr ⟨.conditional tested thenPart elsePart,
      List.forall_mem_append.mpr ⟨Stmt.forall_partsAll.mpr first, Stmt.forall_partsAll.mpr second⟩⟩
  | forEach iterated body inside =>
    exact List.forall_mem_cons.mpr ⟨.forEach iterated body, Stmt.forall_partsAll.mpr inside⟩
  | whileLoop tested body inside =>
    exact List.forall_mem_cons.mpr ⟨.whileLoop tested body, Stmt.forall_partsAll.mpr inside⟩
  | ret inside => exact List.forall_mem_singleton.mpr (.ret inside)

theorem of_mem_exprs {s : Stmt} (fresh : s.Fresh) : ∀ e ∈ s.exprs, e.Fresh := by
  cases fresh with
  | expression inside | ret inside => exact List.forall_mem_singleton.mpr inside
  | declaration inside => exact fun e mem => inside e (Option.mem_toList.mp mem)
  | assignment left right => exact List.forall_mem_cons.mpr ⟨left, List.forall_mem_singleton.mpr right⟩
  | conditional tested | whileLoop tested => exact List.forall_mem_singleton.mpr tested
  | forEach iterated => exact List.forall_mem_singleton.mpr iterated

/-- A fresh statement raises nothing but complaints. -/
theorem isComplaint_of_raises {s : Stmt} {problem : CheckError} (fresh : s.Fresh) (raises : s.Raises problem) :
    problem.IsComplaint := by
  cases raises with
  | complaint => trivial
  | settled filled => exact absurd fresh.bare_eq filled
  | unknown => cases fresh

end Stmt.Fresh

/-! ## Fresh programs -/

namespace Source.Fresh

variable {s : Source}

theorem of_mem_statements (fresh : s.Fresh) : ∀ p ∈ s.statements, p.Fresh :=
  Source.forall_statements.mpr fun m mem whole inBody => ((fresh.methods m mem).body whole inBody).of_mem_parts

theorem of_mem_expressions (fresh : s.Fresh) : ∀ e ∈ s.expressions, e.Fresh := by
  refine Source.forall_expressions.mpr ⟨fun f mem whole isValue => ?_, fun p mem whole direct => ?_⟩
  · exact ((fresh.fields f mem).initializer whole isValue).of_mem_parts
  · exact ((fresh.of_mem_statements p mem).of_mem_exprs whole direct).of_mem_parts

/-- A fresh program raises nothing but complaints. -/
theorem isComplaint_of_raises {problem : CheckError} (fresh : s.Fresh) (raises : s.Raises problem) :
    problem.IsComplaint := by
  cases raises with
  | complaint => trivial
  | field mem raises =>
    cases raises with
    | complaint => trivial
    | settled filled => exact absurd (fresh.fields _ mem).bare_eq filled
  | method mem raises =>
    cases raises with
    | complaint => trivial
    | settled filled => exact absurd (fresh.methods _ mem).bare_eq filled
  | statement mem raises => exact (fresh.of_mem_statements _ mem).isComplaint_of_raises raises
  | expression mem raises => exact (fresh.of_mem_expressions _ mem).isComplaint_of_raises raises

end Source.Fresh

theorem complains_checkSource {s : Source} (fresh : s.Fresh) (catalog : Catalog)
    (needsMain : Bool) (space : Space) (outer : ScopeId) :
    Check.Complains (checkSource catalog needsMain space outer s).result := by
  cases ended : (checkSource catalog needsMain space outer s).result with
  | ok => trivial
  | error problem => exact fresh.isComplaint_of_raises (raises_of_checkSource ended)

end Primer
