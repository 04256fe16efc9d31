import Primer.Proofs.Check.Judgement

/-!
# The slots of calls

The check leaves in each call the function that its name means there. What a call means depends on the place
of the program alone, not on the block it stands in, since functions are bound in the global scope only. So a
phrase is settled with respect to what names mean, and a phrase of a checked program is settled with respect
to what names mean in its context.
-/

namespace Primer

/-- What names mean when called with so many arguments. -/
abbrev Meaning := String → Nat → Option Function

mutual
/-- That every call in an expression holds the function that its name means. -/
def Expr.Settled (means : Meaning) : Expr → Prop
  | .literal .. | .ref .. | .unknown _ => True
  | .group inner _ _ => inner.Settled means
  | .binary _ left right _ _ => left.Settled means ∧ right.Settled means
  | .field receiver _ _ _ _ => receiver.Settled means
  | .call name args _ callee _ =>
    Expr.SettledAll means args ∧ ∃ f, callee = some f ∧ means name args.length = some f
  | .send receiver _ args _ _ _ => Expr.SettledAll means args ∧ receiver.Settled means

/-- That every call in some expressions holds the function that its name means. -/
def Expr.SettledAll (means : Meaning) : List Expr → Prop
  | [] => True
  | e :: es => e.Settled means ∧ Expr.SettledAll means es
end

mutual
/-- That every call in a statement holds the function that its name means. -/
def Stmt.Settled (means : Meaning) : Stmt → Prop
  | .expression e _ => e.Settled means
  | .declaration _ _ initializer _ _ => ∀ e, initializer = some e → e.Settled means
  | .assignment target value _ => target.Settled means ∧ value.Settled means
  | .conditional condition thenPart elsePart _ =>
    condition.Settled means ∧ Stmt.SettledAll means thenPart ∧ Stmt.SettledAll means elsePart
  | .forEach _ iterable body _ => iterable.Settled means ∧ Stmt.SettledAll means body
  | .whileLoop condition body _ => condition.Settled means ∧ Stmt.SettledAll means body
  | .ret value _ => value.Settled means
  | .unknown _ => True

/-- That every call in some statements holds the function that its name means. -/
def Stmt.SettledAll (means : Meaning) : List Stmt → Prop
  | [] => True
  | s :: ss => s.Settled means ∧ Stmt.SettledAll means ss
end

namespace Context

mutual
theorem Types.settled {c : Context} {e : Expr} {t : Ty} : c.Types e t → e.Settled c.functionOf?
  | .literal _ => trivial
  | .group inside => inside.settled
  | .binary first second _ _ => ⟨first.settled, second.settled⟩
  | .ref _ => trivial
  | .field object _ => object.settled
  | .call given found _ => ⟨given.settled, _, rfl, given.length_eq.symm ▸ found⟩
  | .send given object _ => ⟨given.settled, object.settled⟩

theorem TypesAll.settled {c : Context} {es : List Expr} {ts : List Ty} :
    c.TypesAll es ts → Expr.SettledAll c.functionOf? es
  | .nil => trivial
  | .cons first others => ⟨first.settled, others.settled⟩
end

mutual
/-- What calls mean in a block is what they mean around it. -/
theorem Admits.settled {c : Context} {s : Stmt} {vs : List Variable} : c.Admits s vs → s.Settled c.functionOf?
  | .expression typed => typed.settled
  | .declaration _ typed _ => fun e isInitializer => (typed e isInitializer).settled
  | .assignment _ left right _ => ⟨left.settled, right.settled⟩
  | .conditional tested first second => ⟨tested.settled, first.settled, second.settled⟩
  | .forEach iterates _ inside => ⟨iterates.settled, inside.settled⟩
  | .whileLoop tested inside => ⟨tested.settled, inside.settled⟩
  | .ret typed _ => typed.settled

theorem AdmitsAll.settled {c : Context} {ss : List Stmt} : c.AdmitsAll ss → Stmt.SettledAll c.functionOf? ss
  | .nil => trivial
  | .cons first others => ⟨first.settled, others.settled⟩
end

theorem AdmitsMethod.settledBody {c : Context} {m : Method} {f : Function} (admitted : c.AdmitsMethod m f) :
    Stmt.SettledAll c.functionOf? m.body := by
  obtain ⟨vs, -, body⟩ := admitted.body
  exact body.settled

end Context

end Primer
