import Primer.CommandLine.Program
import Primer.Proofs.Check.Bound
import Primer.Proofs.Run.Closed
import Primer.Proofs.Run.Followed
import Primer.Proofs.Run.Numbered

/-!
# Which variable a name means

The check and a run both look names up, each in scopes of its own. They agree on the variables that names mean:
when a run comes to a name of a checked program, the variable that it finds there was made at the declaration
whose variable the check left in the slot of the name. `checked_program_finds_sites` says so of all runs of a
checked program over any world, and that a run which goes by the slots, and not by the names, does the same.

**What it does not establish.** That a name is bound at all says nothing about its value; a variable without a
value is found as well as any other.
-/

namespace Primer

namespace Sited

variable {look : Look} {t : Sited} {g : ScopeId} {outer? : String → Option Variable} {vs vs' : List Variable}

/-! ## Declarations -/

/-- The fields of a program are made at their sites, before it has any methods. -/
theorem declareFields_follows (faithful : look.Faithful) (fuel calls : Nat) {next : Nat} {fs : List Field}
    (bound : Field.BoundAll outer? next vs fs vs') (owned : Owned g outer? vs t)
    (none : ∀ n params body, t.world.bodies.get? n ≠ some (.method params body g)) :
    Follows t ((conduct look g).declareFields fuel calls g fs) (Run.declareFields fuel calls g fs) fun _ t' =>
      Owned g outer? vs' t' := by
  induction bound generalizing t with
  | nil => exact follows_pure owned
  | @cons next vs vs' f fs v settled named numbered initial others ih =>
    have stands : Stands g outer? vs (some 0).isSome g [vs] t := ⟨owned, fun _ => owned.global⟩
    have isNamed : ∀ u ∈ f.binding, u.name = f.name := by
      intro u isMade
      rw [settled] at isMade
      cases isMade
      exact named
    have declared : ∀ x t₁, t.Evolves (fun _ => False) t₁ →
        Follows t₁ (bind g f.name x f.binding) (Run.bind g f.name x) fun _ t₂ => t.Evolves (· = g) t₂ ∧
          Owned g outer? (v :: vs) t₂ := by
      intro x t₁ evolves₁
      have owned₁ := owned.evolve evolves₁ fun _ => False.elim
      refine (bind_follows isNamed).mono fun _ t₂ ⟨evolves₂, added⟩ => ⟨evolves₁.open.trans evolves₂, ?_⟩
      refine owned₁.move evolves₂ (fun i same => Nat.le_of_eq same.symm) (added g v settled vs [] owned₁.global) ?_
      intro n params body isBody
      rw [evolves₁.world.bodies] at isBody
      exact absurd isBody (none n params body)
    have first : Follows t ((conduct look g).declareField fuel calls g f) (Run.declareField fuel calls g f) fun _ t₂ =>
        t.Evolves (· = g) t₂ ∧ Owned g outer? (v :: vs) t₂ := by
      unfold Run.declareField Conduct.declareField Conduct.declare
      cases isInitializer : f.initializer with
      | none => exact Follows.bind (follows_pure (.refl _ t)) declared
      | some e =>
        have evaluated := evaluate_follows faithful fuel calls stands fun _ => initial e isInitializer
        exact Follows.bind evaluated declared
    refine first.bind fun _ t₂ ⟨evolves, owned₂⟩ => ih owned₂ fun n params body isBody => ?_
    rw [evolves.world.bodies] at isBody
    exact none n params body isBody

/-- A declared method is owned by the function that the check has for it. -/
theorem Owned.declare {frame : Frame} {number : Nat} {m : Method} {d f : Function} {w : World}
    (owned : Owned g outer? vs t) (bound : m.Bound outer? vs number f) (found : t.world.space.frame? g = some frame)
    (method : Run.DeclaresMethod g frame m t.world d w) :
    Owned g outer? vs
      { t with world := w, owners := fun n => if n = d.number then m.callee else t.owners n } := by
  have made : ∀ v site, t.Made v site →
      Made { t with world := w, owners := fun n => if n = d.number then m.callee else t.owners n } v site :=
    fun v site isMade => ⟨isMade.1, Nat.lt_of_lt_of_le isMade.2 method.declares.number⟩
  have other : ∀ n, n < t.world.space.nextNumber → n ≠ d.number :=
    fun n old => Nat.ne_of_lt (Nat.lt_of_lt_of_eq old method.numbered.symm)
  refine ⟨owned.named, (method.declares.inside owned.global).mono made, fun name => ?_, fun name v isOuter => ?_,
    fun n params body isBody => ?_, fun i frame' isFrame h mem => ?_, fun h mem => ?_⟩
  · exact (method.declares.around found _).trans (owned.around name)
  · exact made v v (owned.outer name v isOuter)
  · dsimp only at isBody ⊢
    rw [method.bodies] at isBody
    by_cases same : n = d.number
    · rw [if_pos same] at isBody ⊢
      cases isBody
      exact ⟨f, bound.settled, bound.arity.trans (List.length_map _).symm, bound.body⟩
    · rw [if_neg same] at isBody ⊢
      exact owned.bodies n params body isBody
  · dsimp only at isFrame ⊢
    have old : ∀ frame, t.world.space.frame? i = some frame → h ∈ frame.funs → h.number < w.space.nextNumber ∧
        ∀ o, (if h.number = d.number then m.callee else t.owners h.number) = some o → h.arity = o.params.length := by
      intro frame isOldFrame isMem
      obtain ⟨isOld, arity⟩ := owned.functions i frame isOldFrame h isMem
      rw [if_neg (other _ isOld)]
      exact ⟨Nat.lt_of_lt_of_le isOld method.declares.number, arity⟩
    by_cases same : i = g
    · subst same
      rw [method.added] at isFrame
      cases isFrame
      rcases List.mem_cons.mp mem with rfl | isMem
      · rw [if_pos rfl, bound.settled, method.next, method.numbered]
        refine ⟨Nat.lt_succ_self _, ?_⟩
        rintro o ⟨⟩
        rw [method.arity, bound.arity]
      · exact old frame found isMem
    · rw [method.declares.others i same] at isFrame
      exact old frame' isFrame mem
  · dsimp only at mem ⊢
    rw [method.declares.methods] at mem
    obtain ⟨isOld, unowned⟩ := owned.methods h mem
    rw [if_neg (other _ isOld)]
    exact ⟨Nat.lt_of_lt_of_le isOld method.declares.number, unowned⟩

theorem declareMethod_follows {number : Nat} {m : Method} {f : Function} (bound : m.Bound outer? vs number f)
    (owned : Owned g outer? vs t) :
    Follows t (declareMethod g m) (Run.declareMethod g m) fun _ t' => Owned g outer? vs t' := by
  obtain ⟨frame, found⟩ := owned.global.exists_frame
  have declared : Follows t (lift (Run.declareMethod g m)) (Run.declareMethod g m) fun d t' =>
      Owned g outer? vs { t' with owners := fun n => if n = d.number then m.callee else t'.owners n } :=
    follows_lift fun d w ran => owned.declare bound found (Run.declaresMethod_of_eq_ok found ran)
  have recorded := declared.bind (f := pure) fun d t' owned' =>
    show Follows t' (do
        modify fun t => { t with owners := fun n => if n = d.number then m.callee else t.owners n }
        return d) (pure d) fun _ t'' => Owned g outer? vs t'' from
      .ok (t := { t' with owners := fun n => if n = d.number then m.callee else t'.owners n }) owned'
  rwa [bind_pure] at recorded

theorem declareMethods_follows {next : Nat} {ms : List Method} (bound : Method.BoundAll outer? vs next ms)
    (owned : Owned g outer? vs t) :
    Follows t ((conduct look g).declareMethods g ms) (Run.declareMethods g ms) fun _ t' => Owned g outer? vs t' := by
  induction bound generalizing t with
  | nil => exact follows_pure owned
  | cons first _ ih => exact (declareMethod_follows first owned).bind fun _ t' owned' => ih owned'

/-! ## Whole programs -/

/-- In the new scope of a program nothing is bound, and names mean what they mean around it. -/
theorem owned_start {w : World} (closed : w.Closed) (numbered : w.Numbered) (outer : ScopeId) :
    Owned w.space.frames.size (w.space.lookupVariable? outer) []
      { start w with world.space := (w.space.child outer).1 } := by
  have describes := Check.describes_start {} w.space outer False
  obtain ⟨frame, vs, found, isFrames, bound⟩ := describes.inside.at_global
  cases isFrames
  have next : w.space.nextNumber = (w.space.child outer).1.nextNumber := (w.space.nextNumber_child outer).symm
  refine ⟨fun v site isSite => ?_, .global found ?_, describes.outerNames, fun name v isFound => ?_,
    fun n params body isBody => ?_, fun i frame' isFrame d mem => ?_, fun m mem => ?_⟩
  · dsimp only [start] at isSite
    split at isSite <;> cases isSite
    rfl
  · rw [List.forall₂_nil_right_iff.mp bound]
    exact .nil
  · obtain ⟨i, frame', isFrame, -, picked⟩ := Space.exists_frame_of_findUp isFound
    have old := (numbered.frames i frame' isFrame).1 v (List.mem_of_find?_eq_some picked)
    exact ⟨if_pos old, next ▸ old⟩
  · obtain ⟨frame', isFrame⟩ := closed n params body _ isBody
    exact absurd (Space.frame?_lt isFrame) (Nat.lt_irrefl _)
  · refine ⟨?_, fun f isOwner => nomatch isOwner⟩
    rcases Space.frame?_child_cases isFrame with old | ⟨-, -, nothing⟩
    · exact next ▸ (numbered.frames i frame' old).2 d mem
    · rw [nothing] at mem
      cases mem
  · exact ⟨next ▸ numbered.methods m mem, rfl⟩

/-- Sited runs of bound programs follow runs. -/
theorem program_follows (faithful : look.Faithful) (fuel calls : Nat) {w : World} {outer : ScopeId} {s : Source}
    {next : Nat} {vs : List Variable} (closed : w.Closed) (numbered : w.Numbered)
    (bound : s.Bound (w.space.lookupVariable? outer) next vs) :
    Follows (start w) (program look fuel calls outer s) (Run.program fuel calls outer s) fun _ _ => True := by
  have none : ∀ n params body, w.bodies.get? n ≠ some (.method params body w.space.frames.size) := by
    intro n params body isBody
    obtain ⟨frame, found⟩ := closed n params body _ isBody
    exact Nat.lt_irrefl _ (Space.frame?_lt found)
  rw [Run.program_eq_source]
  refine follows_child ?_
  have fields := declareFields_follows faithful fuel calls bound.fields (owned_start closed numbered outer) none
  refine fields.bind fun _ t₁ owned₁ => (declareMethods_follows bound.methods owned₁).bind fun _ t₂ owned₂ => ?_
  refine (functionOf_follows owned₂ "main" 0).bind fun main t₃ found => ?_
  obtain ⟨-, owned₃, fits⟩ := found
  exact (invoke_follows faithful fuel calls owned₃ fits).mono fun _ _ _ => trivial

end Sited

/-- **Variables.** The check gives each declaration of a program that passes it a variable of its own, and in
every run over the world that the program was checked for, each name of the program finds a variable made at
the declaration in its slot. Looking for that declaration in place of the name does not change the run. -/
theorem checked_program_finds_sites {catalog : Catalog} {needsMain : Bool} {w : World} {outer : ScopeId} {s : Source}
    (closed : w.Closed) (numbered : w.Numbered)
    (accepted : (checkSource catalog needsMain w.space outer s).result = .ok ()) :
    (∀ v, (checkSource catalog needsMain w.space outer s).space.Binds v ↔
      w.space.Binds v ∨ v ∈ (checkSource catalog needsMain w.space outer s).tree.declared) ∧
    (checkSource catalog needsMain w.space outer s).tree.declared.Pairwise (fun u v => u.number < v.number) ∧
    (∀ v ∈ (checkSource catalog needsMain w.space outer s).tree.declared, w.space.nextNumber ≤ v.number) ∧
    ∀ (fuel calls : Nat), ∀ look ∈ [Look.byName, Look.bySite],
      Sited.outcome? (Sited.program look fuel calls outer (checkSource catalog needsMain w.space outer s).tree
          (.start w)) =
        some (Run.program fuel calls outer (checkSource catalog needsMain w.space outer s).tree w) := by
  obtain ⟨⟨vs, bound⟩, binds⟩ := Check.checkSource_bound accepted
  obtain ⟨increasing, new⟩ := bound.pairwise_numbers
  refine ⟨binds, increasing, new, fun fuel calls look mem => ?_⟩
  have faithful : look.Faithful := by
    rcases List.mem_pair.mp mem with rfl | rfl
    · exact Look.byName_faithful
    · exact Look.bySite_faithful
  exact (Sited.program_follows faithful fuel calls closed numbered bound).outcome?_eq

open CommandLine (rootWorld rootWorld_numbered)

/-- The world with the root scope, in which the host also has a function that gives ranges. -/
def rangeWorld : World :=
  match rootWorld.1.declareFunction? rootWorld.2 "range" [.integer, .integer] .integerIterable Native.range none with
  | some (w, _) => w
  | none => rootWorld.1

theorem rangeWorld_closed : rangeWorld.Closed := by
  intro n params body scope isBody
  have bodies : rangeWorld.bodies =
      (Table.set {} 0 (Body.native Native.print)).set 1 (Body.native Native.range) := rfl
  rw [bodies, Table.get?_set, Table.get?_set] at isBody
  split at isBody
  · cases isBody
  · split at isBody <;> cases isBody

theorem rangeWorld_numbered : rangeWorld.Numbered := by
  unfold rangeWorld World.declareFunction?
  cases declared : rootWorld.1.space.declareFunction? rootWorld.2 "range" [.integer, .integer] .integerIterable none with
  | none => exact rootWorld_numbered
  | some pair => exact rootWorld_numbered.declareFunction declared _

/-- A program in which a field, a parameter, a loop and a statement declare one name. -/
def shadowedSum : Source where
  fields := [{ name := "n", typeName := "Integer", initializer := some (.literal (.int 2) 17), offset := 0 }]
  methods := [
    { name := "sum", params := [⟨"n", "Integer"⟩], resultTypeName := some "Integer", offset := 20
      body := [
        .declaration "s" none (some (.literal (.int 0) 65)) 57,
        .forEach "n" (.call "range" [.literal (.int 0) 85, .ref "n" 88] 79)
          [.assignment (.ref "s" 98) (.binary .add (.ref "s" 102) (.ref "n" 106) 102) 98] 70,
        .ret (.ref "s" 122) 115] },
    { name := "main", params := [], resultTypeName := some "Integer", offset := 130
      body := [
        .conditional (.binary .lt (.ref "n" 161) (.literal (.int 3) 165) 161)
          [.declaration "n" none (some (.binary .add (.ref "n" 178) (.literal (.int 1) 182) 178)) 170,
            .ret (.call "sum" [.ref "n" 196] 192) 185] [] 158,
        .ret (.ref "n" 210) 203] }]

/-- Whether a run ended with an integer. -/
def givesInteger (n : Int) : EStateM.Result Stop World Value → Bool
  | .ok (.int m) _ => m == n
  | _ => false

theorem exists_world_of_shadowedSum :
    ∃ w, Run.program 40 5 rootWorld.2 (checkSource {} true rangeWorld.space rootWorld.2 shadowedSum).tree rangeWorld =
      .ok (.int 3) w := by
  have gives : givesInteger 3 (Run.program 40 5 rootWorld.2
      (checkSource {} true rangeWorld.space rootWorld.2 shadowedSum).tree rangeWorld) = true := by
    decide +kernel
  unfold givesInteger at gives
  split at gives
  next m w ran =>
    rw [eq_of_beq gives] at ran
    exact ⟨w, ran⟩
  next => cases gives

/-- The five declarations of this program are told apart in its runs, by name and by site. -/
theorem shadowedSum_finds_sites :
    rangeWorld.Closed ∧ rangeWorld.Numbered ∧
      (checkSource {} true rangeWorld.space rootWorld.2 shadowedSum).result = .ok () ∧
      (checkSource {} true rangeWorld.space rootWorld.2 shadowedSum).tree.declared.map Variable.name =
        ["n", "n", "s", "n", "n"] ∧
      ∀ look ∈ [Look.byName, Look.bySite], ∃ w,
        Sited.outcome? (Sited.program look 40 5 rootWorld.2
          (checkSource {} true rangeWorld.space rootWorld.2 shadowedSum).tree (.start rangeWorld)) =
            some (.ok (.int 3) w) := by
  have accepted : (checkSource {} true rangeWorld.space rootWorld.2 shadowedSum).result = .ok () := by
    decide +kernel
  obtain ⟨-, -, -, finds⟩ := checked_program_finds_sites rangeWorld_closed rangeWorld_numbered accepted
  obtain ⟨w, ran⟩ := exists_world_of_shadowedSum
  refine ⟨rangeWorld_closed, rangeWorld_numbered, accepted, by decide +kernel, fun look mem => ⟨w, ?_⟩⟩
  rw [finds 40 5 look mem, ran]

-- A slot that holds the variable of another declaration leads a run astray.
example :
    let x : Variable := ⟨2, "x", .integer, "x"⟩
    let y : Variable := ⟨3, "y", .integer, "y"⟩
    (Sited.outcome? (Sited.program .byName 20 5 rootWorld.2
      { fields := []
        methods := [{
          name := "main", params := [], resultTypeName := some "Integer", offset := 0
          callee := some ⟨1, "main", [], .integer, "main"⟩
          body := [.declaration "x" none (some (.literal (.int 1) 0)) 0 (some x),
            .declaration "y" none (some (.literal (.int 2) 0)) 0 (some y), .ret (.ref "x" 0 (some y)) 0] }] }
      (.start rootWorld.1))).isNone = true := by
  decide +kernel

end Primer
