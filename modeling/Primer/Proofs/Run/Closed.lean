import Primer.CommandLine.Program
import Primer.Proofs.Run.Stable

/-!
# Closures

A method closes over the scope that it was declared in. A world is closed if all of these scopes are there, so
that no scope that comes later can be taken for one of them.

**The law** (`Run.program_closed`): programs, checked or not, lead from closed worlds to closed worlds, wherever
their runs end. The world with the root scope is closed.
-/

namespace Primer

namespace World

/-- That the methods of a world were declared in scopes that it has. -/
def Closed (w : World) : Prop :=
  ∀ n params body scope, w.bodies.get? n = some (.method params body scope) →
    ∃ frame, w.space.frame? scope = some frame

/-- That a world is closed and has a certain scope. -/
def ClosedWith (g : ScopeId) (w : World) : Prop :=
  w.Closed ∧ ∃ frame, w.space.frame? g = some frame

variable {w : World} {space : Space} {opened : ScopeId → Prop}

theorem Closed.grow (closed : w.Closed) (grows : w.space.Grows opened space) : Closed { w with space } := by
  intro n params body scope isBody
  obtain ⟨frame, found⟩ := closed n params body scope isBody
  obtain ⟨frame', found', -⟩ := grows.exists_frame found
  exact ⟨frame', found'⟩

theorem ClosedWith.grow {g : ScopeId} (holds : w.ClosedWith g) (grows : w.space.Grows opened space) :
    ClosedWith g { w with space } := by
  obtain ⟨closed, frame, found⟩ := holds
  obtain ⟨frame', found', -⟩ := grows.exists_frame found
  exact ⟨closed.grow grows, frame', found'⟩

/-- Code declares no methods, and takes no scope away. -/
theorem closedWith_stable (g : ScopeId) : Stable (ClosedWith g) where
  store _ holds := holds
  child _ holds := holds.grow (.of_child (.refl _ _))
  bind {w} scope name holds :=
    holds.grow ((Space.Grows.newVariable w.space name .any none).trans (.addVariable _ scope _))

end World

theorem CommandLine.rootWorld_closed : rootWorld.1.Closed := by
  intro n params body scope isBody
  have bodies : rootWorld.1.bodies = Table.set {} 0 (Body.native Native.print) := rfl
  rw [bodies, Table.get?_set] at isBody
  split at isBody <;> cases isBody

namespace Run

/-- A method closes over the scope in which it is declared. -/
theorem declareMethod_closed (g : ScopeId) (m : Method) : Preserving (World.ClosedWith g) (declareMethod g m) := by
  rintro w ⟨closed, frame, found⟩
  dsimp only [declareMethod]
  split
  next => exact ⟨closed, frame, found⟩
  next space d declared =>
    obtain ⟨-, -, -, declares⟩ := Space.declaresFunction_of_eq_some found declared
    refine ⟨fun n params body scope isBody => ?_, _, declares.added⟩
    change (w.bodies.set d.number _).get? n = _ at isBody
    by_cases same : scope = g
    · exact ⟨_, same ▸ declares.added⟩
    · rw [Table.get?_set] at isBody
      split at isBody
      · cases isBody
        exact absurd rfl same
      · obtain ⟨frame', found'⟩ := closed n params body scope isBody
        exact ⟨frame', (declares.others scope same).trans found'⟩

/-- A closed world is closed wherever the run of a program ends. -/
theorem program_closed (fuel calls : Nat) (outer : ScopeId) (s : Source) {w : World} (closed : w.Closed) :
    (last (program fuel calls outer s w)).Closed := by
  -- The methods close over the new scope, which is there from the start.
  let g := (w.space.child outer).2
  let w' : World := { w with space := (w.space.child outer).1 }
  have there : ∃ frame, w'.space.frame? g = some frame := by
    rw [show g = w.space.frames.size from Space.child_snd w.space outer]
    exact Space.exists_frame_child w.space outer
  have preserving : Preserving (World.ClosedWith g) (source fuel calls g s) :=
    source_preserves (World.closedWith_stable g) (declareMethod_closed g) fuel calls s
  have holds := preserving w' ⟨closed.grow (.of_child (.refl _ _)), there⟩
  rw [program_eq_source]
  exact holds.1

end Run

end Primer
