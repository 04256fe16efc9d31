import Primer.CommandLine.Program
import Primer.Proofs.Run.Stable

/-!
# Numbers of records

A space hands out the numbers of new records. A world is numbered if no variable and no function in it has a
number that is still to be handed out, so that a new record is never taken for an old one.

**The law** (`Run.program_numbered`): programs, checked or not, lead from numbered worlds to numbered worlds,
wherever their runs end. The world with the root scope is numbered, and so is one to which the host adds a
function.
-/

namespace Primer

/-- That the records which a frame binds have numbers below this one. -/
def Frame.Numbered (next : Nat) (f : Frame) : Prop :=
  (∀ v ∈ f.vars, v.number < next) ∧ ∀ g ∈ f.funs, g.number < next

theorem Frame.Numbered.mono {next next' : Nat} {f : Frame} (numbered : f.Numbered next) (le : next ≤ next') :
    f.Numbered next' :=
  ⟨fun v mem => Nat.lt_of_lt_of_le (numbered.1 v mem) le, fun g mem => Nat.lt_of_lt_of_le (numbered.2 g mem) le⟩

/-- That the records of a world have numbers that its space has handed out. -/
structure World.Numbered (w : World) : Prop where
  frames : ∀ i frame, w.space.frame? i = some frame → frame.Numbered w.space.nextNumber
  methods : ∀ m ∈ w.methods, m.2.number < w.space.nextNumber

namespace World

/-- Code gives new variables new numbers. -/
theorem numbered_stable : Stable Numbered where
  store _ numbered := ⟨numbered.frames, numbered.methods⟩
  child {w} scope numbered := by
    have same := w.space.nextNumber_child scope
    refine ⟨fun i frame found => ?_, same.symm ▸ numbered.methods⟩
    dsimp only at found ⊢
    rw [same]
    rcases Space.frame?_child_cases found with old | ⟨-, noVars, noFuns⟩
    · exact numbered.frames i frame old
    · exact ⟨by simp [noVars], by simp [noFuns]⟩
  bind {w} scope name numbered := by
    refine ⟨fun i frame found => ?_, fun m mem => Nat.lt_succ_of_lt (numbered.methods m mem)⟩
    dsimp only at found
    rw [Space.frame?_addVariable] at found
    split at found
    · obtain ⟨before, old, rfl⟩ := Option.map_eq_some_iff.mp found
      obtain ⟨vars, funs⟩ := (numbered.frames i before old).mono (Nat.le_succ _)
      exact ⟨List.forall_mem_cons.mpr ⟨Nat.lt_succ_self _, vars⟩, funs⟩
    · exact (numbered.frames i frame found).mono (Nat.le_succ _)

/-- A function that the host or a program declares has a new number. -/
theorem Numbered.declareFunction {w : World} (numbered : w.Numbered) {scope : ScopeId} {name : String}
    {params : List Ty} {result : Ty} {java : Option String} {space : Space} {f : Function}
    (declared : w.space.declareFunction? scope name params result java = some (space, f)) (bodies : Table Body) :
    Numbered { w with space, bodies } := by
  simp only [Space.declareFunction?, Space.defineFunction?] at declared
  split at declared
  next => cases declared
  next =>
    cases declared
    refine ⟨fun i frame found => ?_, fun m mem => Nat.lt_succ_of_lt (numbered.methods m mem)⟩
    dsimp only at found
    rw [Space.frame?_addFunction] at found
    split at found
    · obtain ⟨before, old, rfl⟩ := Option.map_eq_some_iff.mp found
      obtain ⟨vars, funs⟩ := (numbered.frames i before old).mono (Nat.le_succ _)
      exact ⟨vars, List.forall_mem_cons.mpr ⟨Nat.lt_succ_self _, funs⟩⟩
    · exact (numbered.frames i frame found).mono (Nat.le_succ _)

end World

theorem CommandLine.rootWorld_numbered : rootWorld.1.Numbered := by
  refine ⟨fun i frame found => ?_, fun m mem => nomatch mem⟩
  have size : rootWorld.1.space.frames.size = 1 := rfl
  have first : rootWorld.1.space.frame? 0 =
      some { parent := none, funs := [⟨0, "print", [.any], .nil, "System.out.println"⟩] } := rfl
  have lt := Space.frame?_lt found
  rw [size, Nat.lt_one_iff] at lt
  rw [lt, first] at found
  cases found
  exact ⟨List.forall_mem_nil _, by decide⟩

namespace Run

theorem declareMethod_numbered (scope : ScopeId) (m : Method) :
    Preserving World.Numbered (declareMethod scope m) := by
  intro w numbered
  dsimp only [declareMethod]
  split
  next => exact numbered
  next space f declared => exact numbered.declareFunction declared _

/-- A numbered world is numbered wherever the run of a program ends. -/
theorem program_numbered (fuel calls : Nat) (outer : ScopeId) (s : Source) :
    Preserving World.Numbered (program fuel calls outer s) := by
  have stable := World.numbered_stable
  rw [program_eq_source]
  refine (preserving_child stable outer).bind fun scope => ?_
  exact source_preserves stable (declareMethod_numbered scope) fuel calls s

end Run

end Primer
