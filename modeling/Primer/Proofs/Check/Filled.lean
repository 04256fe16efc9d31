import Primer.Proofs.Check.Soundness

/-!
# A passed check leaves no slot empty

A phrase that is settled has parts that are settled, at any depth, each where it stands. So a program that
passes the check is settled everywhere (`Check.settled_checkSource`), and what is true of every settled phrase
by itself is true of all its phrases.

**The law** (`Source.Settled.filled`): such a program has no empty slot.
-/

namespace Primer

/-- Whether the form of an expression is known and its own slots are filled. -/
def Expr.filled : Expr → Bool
  | .literal _ _ type | .group _ _ type | .binary _ _ _ _ type => type.isSome
  | .ref _ _ binding type | .field _ _ _ binding type => binding.isSome && type.isSome
  | .call _ _ _ callee type | .send _ _ _ _ callee type => callee.isSome && type.isSome
  | .unknown _ => false

/-- Whether the form of a statement is known and its own slot is filled. -/
def Stmt.filled : Stmt → Bool
  | .declaration _ _ _ _ binding => binding.isSome
  | .unknown _ => false
  | _ => true

/-- That no slot of a program is empty. -/
structure Source.Filled (s : Source) : Prop where
  fields : ∀ f ∈ s.fields, f.binding.isSome
  methods : ∀ m ∈ s.methods, m.callee.isSome
  statements : ∀ p ∈ s.statements, p.filled
  expressions : ∀ e ∈ s.expressions, e.filled

namespace Context

/-! ## The parts of settled phrases -/

mutual
theorem Types.exists_types {c : Context} {e : Expr} {t : Ty} : c.Types e t → ∀ part ∈ e.parts, ∃ t, c.Types part t
  | .literal typed => List.forall_mem_singleton.mpr ⟨_, .literal typed⟩
  | .group inside => List.forall_mem_cons.mpr ⟨⟨_, .group inside⟩, inside.exists_types⟩
  | .binary first second operates ordered =>
    List.forall_mem_cons.mpr ⟨⟨_, .binary first second operates ordered⟩,
      List.forall_mem_append.mpr ⟨first.exists_types, second.exists_types⟩⟩
  | .ref found => List.forall_mem_singleton.mpr ⟨_, .ref found⟩
  | .field object found => List.forall_mem_cons.mpr ⟨⟨_, .field object found⟩, object.exists_types⟩
  | .call given found accepted =>
    List.forall_mem_cons.mpr ⟨⟨_, .call given found accepted⟩, given.exists_types⟩
  | .send given object found =>
    List.forall_mem_cons.mpr ⟨⟨_, .send given object found⟩,
      List.forall_mem_append.mpr ⟨object.exists_types, given.exists_types⟩⟩

theorem TypesAll.exists_types {c : Context} {es : List Expr} {ts : List Ty} :
    c.TypesAll es ts → ∀ part ∈ Expr.partsAll es, ∃ t, c.Types part t
  | .nil => fun _ mem => nomatch mem
  | .cons first others => List.forall_mem_append.mpr ⟨first.exists_types, others.exists_types⟩
end

mutual
/-- The statements inside one that is settled are settled, each where it stands. -/
theorem Admits.exists_admits {c : Context} {s : Stmt} {vs : List Variable} :
    c.Admits s vs → ∀ p ∈ s.parts, ∃ c vs, Context.Admits c p vs
  | .expression typed => List.forall_mem_singleton.mpr ⟨_, _, .expression typed⟩
  | .declaration free typed initialized =>
    List.forall_mem_singleton.mpr ⟨_, _, .declaration free typed initialized⟩
  | .assignment isAccess left right accepted =>
    List.forall_mem_singleton.mpr ⟨_, _, .assignment isAccess left right accepted⟩
  | .conditional tested first second =>
    List.forall_mem_cons.mpr ⟨⟨_, _, .conditional tested first second⟩,
      List.forall_mem_append.mpr ⟨first.exists_admits, second.exists_admits⟩⟩
  | .forEach iterates counts inside =>
    List.forall_mem_cons.mpr ⟨⟨_, _, .forEach iterates counts inside⟩, inside.exists_admits⟩
  | .whileLoop tested inside => List.forall_mem_cons.mpr ⟨⟨_, _, .whileLoop tested inside⟩, inside.exists_admits⟩
  | .ret typed returned => List.forall_mem_singleton.mpr ⟨_, _, .ret typed returned⟩

theorem AdmitsAll.exists_admits {c : Context} {ss : List Stmt} :
    c.AdmitsAll ss → ∀ p ∈ Stmt.partsAll ss, ∃ c vs, Context.Admits c p vs
  | .nil => fun _ mem => nomatch mem
  | .cons first others => List.forall_mem_append.mpr ⟨first.exists_admits, others.exists_admits⟩
end

/-- The expressions directly in a statement that is settled are settled. -/
theorem Admits.exists_types {c : Context} {s : Stmt} {vs : List Variable} (admits : c.Admits s vs) :
    ∀ e ∈ s.exprs, ∃ t, c.Types e t := by
  cases admits with
  | expression typed => exact List.forall_mem_singleton.mpr ⟨_, typed⟩
  | declaration _ typed _ => exact fun e mem => ⟨_, typed e (Option.mem_toList.mp mem)⟩
  | assignment _ left right _ => exact List.forall_mem_cons.mpr ⟨⟨_, left⟩, List.forall_mem_singleton.mpr ⟨_, right⟩⟩
  | conditional tested _ _ => exact List.forall_mem_singleton.mpr ⟨_, tested⟩
  | forEach iterates _ _ => exact List.forall_mem_singleton.mpr ⟨_, iterates⟩
  | whileLoop tested _ => exact List.forall_mem_singleton.mpr ⟨_, tested⟩
  | ret typed _ => exact List.forall_mem_singleton.mpr ⟨_, typed⟩

theorem AdmitsFields.exists_settled {c : Context} {vs vs' : List Variable} {fs : List Field}
    (admits : c.AdmitsFields vs fs vs') :
    ∀ f ∈ fs, f.binding.isSome ∧ ∀ e ∈ f.initializer.toList, ∃ c t, Context.Types c e t := by
  induction admits with
  | nil => exact fun _ mem => nomatch mem
  | cons settled _ _ typed _ _ ih =>
    refine List.forall_mem_cons.mpr ⟨⟨Option.isSome_of_eq_some settled, fun e mem => ?_⟩, ih⟩
    obtain ⟨t, typed, -⟩ := typed e (Option.mem_toList.mp mem)
    exact ⟨_, t, typed⟩

theorem AdmitsMethods.exists_settled {c : Context} {fs fs' : List Function} {ms : List Method}
    (admits : c.AdmitsMethods fs ms fs') :
    ∀ m ∈ ms, m.callee.isSome ∧ ∃ c, AdmitsAll c m.body := by
  induction admits with
  | nil => exact fun _ mem => nomatch mem
  | cons _ first _ ih =>
    obtain ⟨_, -, body⟩ := first.body
    exact List.forall_mem_cons.mpr ⟨⟨Option.isSome_of_eq_some first.settled, _, body⟩, ih⟩

end Context

/-! ## Whole programs -/

/-- That every phrase of a program is settled where it stands. -/
structure Source.Settled (s : Source) : Prop where
  fields : ∀ f ∈ s.fields, f.binding.isSome
  methods : ∀ m ∈ s.methods, m.callee.isSome
  statements : ∀ p ∈ s.statements, ∃ c vs, Context.Admits c p vs
  expressions : ∀ e ∈ s.expressions, ∃ c t, Context.Types c e t

theorem Context.AdmitsSource.settled {c : Context} {s : Source} {vs : List Variable} {fs : List Function}
    (admits : c.AdmitsSource s vs fs) : s.Settled := by
  have fields := admits.fields.exists_settled
  have methods := admits.methods.exists_settled
  have statements : ∀ p ∈ s.statements, ∃ c vs, Context.Admits c p vs := by
    refine List.forall_mem_flatMap.mpr fun m mem => ?_
    obtain ⟨c, body⟩ := (methods m mem).2
    exact body.exists_admits
  refine ⟨fun f mem => (fields f mem).1, fun m mem => (methods m mem).1, statements, ?_⟩
  refine Source.forall_expressions.mpr ⟨fun f mem whole isValue e part => ?_, fun p mem whole direct e part => ?_⟩
  · obtain ⟨c, t, typed⟩ := (fields f mem).2 whole (Option.mem_toList.mpr isValue)
    exact ⟨c, typed.exists_types e part⟩
  · obtain ⟨c, vs, admits⟩ := statements p mem
    obtain ⟨t, typed⟩ := admits.exists_types whole direct
    exact ⟨c, typed.exists_types e part⟩

/-- A program that passes the check is settled everywhere. -/
theorem Check.settled_checkSource {catalog : Catalog} {needsMain : Bool} {space : Space} {outer : ScopeId} {s : Source}
    (passed : (checkSource catalog needsMain space outer s).result = .ok ()) :
    (checkSource catalog needsMain space outer s).tree.Settled := by
  obtain ⟨vs, fs, admits, -⟩ := checkSource_sound False passed False.elim
  exact admits.settled

/-- What is settled everywhere has no empty slot. -/
theorem Source.Settled.filled {s : Source} (settled : s.Settled) : s.Filled where
  fields := settled.fields
  methods := settled.methods
  statements p mem := by
    obtain ⟨c, vs, admits⟩ := settled.statements p mem
    cases admits <;> rfl
  expressions e mem := by
    obtain ⟨c, t, typed⟩ := settled.expressions e mem
    cases typed <;> rfl

end Primer
