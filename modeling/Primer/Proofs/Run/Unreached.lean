import Primer.Proofs.Layout

/-!
# Code behind a return is dead

A return ends its method, so the statements that stand behind it in the same block are never reached.

**The law** (`runs_never_reach_behind_return`): two programs that differ in nothing but such statements, in any
block at any depth of any method, run alike: they give the same value or stop for the same reason, with the same
output and the same values of all variables and fields.

Which programs these are is said by a relation that follows blocks (`Stmt.AllReachedAlike`): at a return it asks
nothing of what comes after. Offsets may differ, since code that is added moves all that stands behind it. The
essence of a program, which is what a run sees of it, stops at the same places (`Source.ReachedAlike.essence_eq`).
-/

namespace Primer

open CommandLine (rootWorld)

mutual
/-- That two statements are the same but for offsets and for what stands behind a return in their blocks. -/
inductive Stmt.ReachedAlike : Stmt → Stmt → Prop
  | plain {s s' : Stmt} (same : s.unplaced = s'.unplaced) : Stmt.ReachedAlike s s'
  | conditional {condition condition' : Expr} {thenPart thenPart' elsePart elsePart' : List Stmt}
      {offset offset' : Nat} (same : condition.unplaced = condition'.unplaced)
      (first : Stmt.AllReachedAlike thenPart thenPart') (second : Stmt.AllReachedAlike elsePart elsePart') :
      Stmt.ReachedAlike (.conditional condition thenPart elsePart offset)
        (.conditional condition' thenPart' elsePart' offset')
  | forEach (name : String) {iterable iterable' : Expr} {body body' : List Stmt} {offset offset' : Nat}
      (same : iterable.unplaced = iterable'.unplaced) (inside : Stmt.AllReachedAlike body body') :
      Stmt.ReachedAlike (.forEach name iterable body offset) (.forEach name iterable' body' offset')
  | whileLoop {condition condition' : Expr} {body body' : List Stmt} {offset offset' : Nat}
      (same : condition.unplaced = condition'.unplaced) (inside : Stmt.AllReachedAlike body body') :
      Stmt.ReachedAlike (.whileLoop condition body offset) (.whileLoop condition' body' offset')

/-- That two blocks are the same but for offsets and for what stands behind a return. -/
inductive Stmt.AllReachedAlike : List Stmt → List Stmt → Prop
  | nil : Stmt.AllReachedAlike [] []
  | cons {s s' : Stmt} {ss ss' : List Stmt} (first : Stmt.ReachedAlike s s') (others : Stmt.AllReachedAlike ss ss') :
      Stmt.AllReachedAlike (s :: ss) (s' :: ss')
  -- Behind a return anything may stand.
  | ret {value value' : Expr} {offset offset' : Nat} (same : value.unplaced = value'.unplaced)
      (unreached unreached' : List Stmt) :
      Stmt.AllReachedAlike (.ret value offset :: unreached) (.ret value' offset' :: unreached')
end

/-- That two methods are the same but for offsets and for what stands behind a return. -/
structure Method.ReachedAlike (m m' : Method) : Prop where
  name : m.name = m'.name
  params : m.params = m'.params
  resultTypeName : m.resultTypeName = m'.resultTypeName
  body : Stmt.AllReachedAlike m.body m'.body

/-- That two programs are the same but for offsets and for what stands behind a return. -/
structure Source.ReachedAlike (s s' : Source) : Prop where
  fields : s.fields.map Field.unplaced = s'.fields.map Field.unplaced
  methods : List.Forall₂ Method.ReachedAlike s.methods s'.methods

/-! ## Their essence is the same -/

theorem Expr.essence_eq_of_unplaced_eq {e e' : Expr} (same : e.unplaced = e'.unplaced) : e.essence = e'.essence := by
  rw [← e.essence_unplaced, same, e'.essence_unplaced]

theorem Stmt.returns_essence (s : Stmt) : s.essence.returns = s.returns := by
  cases s <;> simp [Stmt.returns]

mutual
theorem Stmt.ReachedAlike.essence_eq {s s' : Stmt} (alike : s.ReachedAlike s') : s.essence = s'.essence := by
  cases alike with
  | plain same => rw [← s.essence_unplaced, same, s'.essence_unplaced]
  | conditional same first second =>
    simp [Expr.essence_eq_of_unplaced_eq same, Stmt.AllReachedAlike.essence_eq first,
      Stmt.AllReachedAlike.essence_eq second]
  | forEach name same inside =>
    simp [Expr.essence_eq_of_unplaced_eq same, Stmt.AllReachedAlike.essence_eq inside]
  | whileLoop same inside =>
    simp [Expr.essence_eq_of_unplaced_eq same, Stmt.AllReachedAlike.essence_eq inside]

theorem Stmt.AllReachedAlike.essence_eq {ss ss' : List Stmt} (alike : Stmt.AllReachedAlike ss ss') :
    Stmt.essenceAll ss = Stmt.essenceAll ss' := by
  cases alike with
  | nil => rfl
  | @cons s s' _ _ first others =>
    have sameFirst := Stmt.ReachedAlike.essence_eq first
    have sameEnd : s.returns = s'.returns := by rw [← s.returns_essence, sameFirst, s'.returns_essence]
    simp [sameFirst, sameEnd, Stmt.AllReachedAlike.essence_eq others]
  | ret same unreached unreached' => simp [Expr.essence_eq_of_unplaced_eq same, Stmt.returns]
end

theorem Method.ReachedAlike.essence_eq {m m' : Method} (alike : m.ReachedAlike m') : m.essence = m'.essence := by
  unfold essence
  rw [alike.name, alike.params, alike.resultTypeName, alike.body.essence_eq]

theorem Source.ReachedAlike.essence_eq {s s' : Source} (alike : s.ReachedAlike s') : s.essence = s'.essence := by
  have sameFields : s.fields.map Field.essence = s'.fields.map Field.essence := by
    have forgotten := congrArg (List.map Field.essence) alike.fields
    simpa only [List.map_map, Function.comp_def, Field.essence_unplaced] using forgotten
  have sameMethods : s.methods.map Method.essence = s'.methods.map Method.essence := by
    have each := alike.methods.imp fun _ _ same => Method.ReachedAlike.essence_eq same
    rw [← List.forall₂_eq_eq_eq, List.forall₂_map_left_iff, List.forall₂_map_right_iff]
    exact each
  unfold essence
  rw [sameFields, sameMethods]

/-- **Dead code.** Programs that differ only behind returns run alike, over any world and whatever the bounds of the
run: they give the same value or stop for the same reason, and leave the same scopes, values, objects and output. -/
theorem runs_never_reach_behind_return {s s' : Source} (alike : s.ReachedAlike s') (fuel calls : Nat)
    (outer : ScopeId) (w : World) :
    RanAlike (Run.program fuel calls outer s w) (Run.program fuel calls outer s' w) :=
  Run.program_alike alike.essence_eq fuel calls outer w

/-- A loop that ends in its first round with a return, and statements behind that return. -/
def earlyReturn (unreached : List Stmt) : Source where
  fields := []
  methods := [{
    name := "main", params := [], resultTypeName := some "Integer", offset := 0
    body := [.whileLoop (.literal (.bool true) 23) [
      .conditional (.literal (.bool true) 31) (.ret (.literal (.int 7) 46) 39 :: unreached) [] 28] 17] }]

/-- The integer that a run gives. -/
def Run.integer? : EStateM.Result Stop World Value → Option Int
  | .ok (.int n) _ => some n
  | _ => none

/-- Behind a return nothing is wrong with a loop that has no end. -/
theorem earlyReturn_before_endless_loop :
    let endless : Stmt := .whileLoop (.literal (.bool true) 55) [] 49
    (earlyReturn []).ReachedAlike (earlyReturn [endless]) ∧
      Run.integer? (Run.program 20 1 rootWorld.2 (earlyReturn []) rootWorld.1) = some 7 ∧
      RanAlike (Run.program 20 1 rootWorld.2 (earlyReturn []) rootWorld.1)
        (Run.program 20 1 rootWorld.2 (earlyReturn [endless]) rootWorld.1) := by
  intro endless
  have alike : (earlyReturn []).ReachedAlike (earlyReturn [endless]) := by
    refine ⟨rfl, .cons ⟨rfl, rfl, rfl, ?_⟩ .nil⟩
    exact .cons (.whileLoop rfl (.cons (.conditional rfl (.ret rfl _ _) .nil) .nil)) .nil
  exact ⟨alike, by decide +kernel, runs_never_reach_behind_return alike 20 1 rootWorld.2 rootWorld.1⟩

end Primer
