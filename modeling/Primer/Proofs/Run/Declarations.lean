import Primer.Proofs.Check.Judgement
import Primer.Proofs.Run.Frames

/-!
# Declaring methods

A run declares all methods of a program before it calls any, whereas the check goes through them one by
one, so that a body was checked with the methods up to its own. This module says what becomes of a world
when the methods of a settled program are declared: none is refused, the global scope binds one function
for each function of the program, with the body of its method, and all else stays as it was.
-/

namespace Primer

/-- That what a name finds among some functions it also finds among others. -/
def Function.FoundIn (funs fs : List Function) : Prop :=
  ∀ name arity h, funs.find? (fun f => f.name == name && f.arity == arity) = some h →
    fs.find? (fun f => f.name == name && f.arity == arity) = some h

namespace Function.FoundIn

theorem refl (fs : List Function) : FoundIn fs fs :=
  fun _ _ _ => id

/-- A function that was found is still found when one of another key is bound. -/
theorem cons {funs fs : List Function} {f : Function} (kept : FoundIn funs fs)
    (free : ∀ h ∈ fs, ¬ (h.name = f.name ∧ h.arity = f.arity)) : FoundIn funs (f :: fs) := by
  intro name arity h early
  have found := kept name arity h early
  have key := List.find?_some found
  rw [Bool.and_eq_true, beq_iff_eq, beq_iff_eq] at key
  rw [List.find?_cons_of_neg, found]
  intro same
  rw [Bool.and_eq_true, beq_iff_eq, beq_iff_eq] at same
  exact free h (List.mem_of_find?_eq_some found) ⟨key.1.trans same.1.symm, key.2.trans same.2.symm⟩

end Function.FoundIn

/-- A name means a function of a frame just when it means one of those that the functions of the frame stand
for. -/
theorem Frame.rel_findFunction? {R : Function → Function → Prop}
    (key : ∀ d f, R d f → d.name = f.name ∧ d.arity = f.arity) {frame : Frame} {fs : List Function}
    (bound : List.Forall₂ R frame.funs fs) (name : String) (arity : Nat) :
    Option.Rel R (frame.findFunction? name arity) (fs.find? fun f => f.name == name && f.arity == arity) := by
  refine rel_find?_of_forall₂ (fun d f related => ?_) bound
  rw [(key d f related).1, (key d f related).2]

theorem Frame.findFunction?_eq_none {R : Function → Function → Prop}
    (key : ∀ d f, R d f → d.name = f.name ∧ d.arity = f.arity) {frame : Frame} {fs : List Function} {f : Function}
    (bound : List.Forall₂ R frame.funs fs) (free : ∀ h ∈ fs, ¬ (h.name = f.name ∧ h.arity = f.arity)) :
    frame.findFunction? f.name f.arity = none := by
  have same := rel_findFunction? key bound f.name f.arity
  have absent : fs.find? (fun h => h.name == f.name && h.arity == f.arity) = none := by
    rw [List.find?_eq_none]
    intro h mem
    simpa using free h mem
  rw [absent] at same
  generalize frame.findFunction? f.name f.arity = here at same
  cases same
  rfl

/-- That a function of a run was declared from a method of a program, which was settled with a function when
some of those in the end bound were. -/
structure Declared (c : Context) (g : ScopeId) (ms : List Method) (fs : List Function) (w : World)
    (d f : Function) : Prop where
  named : d.name = f.name
  arity : d.arity = f.arity
  old : d.number < w.space.nextNumber
  method : ∃ m ∈ ms, ∃ funs, Context.AdmitsMethod { c with funs } m f ∧ Function.FoundIn funs fs ∧
    w.bodies.get? d.number = some (.method (m.params.map Param.name) m.body g)

/-- That the global scope binds functions declared from methods of a program. -/
def Binds (c : Context) (g : ScopeId) (ms : List Method) (fs : List Function) (w : World) : Prop :=
  ∃ frame, w.space.frame? g = some frame ∧ List.Forall₂ (Declared c g ms fs w) frame.funs fs

/-- A name means a declared function to the global scope just when it means one to the check. -/
theorem Binds.rel_findFunction? {c : Context} {g : ScopeId} {ms : List Method} {fs : List Function} {w : World}
    (binds : Binds c g ms fs w) (name : String) (arity : Nat) :
    ∃ frame, w.space.frame? g = some frame ∧
      Option.Rel (Declared c g ms fs w) (frame.findFunction? name arity)
        (fs.find? fun f => f.name == name && f.arity == arity) := by
  obtain ⟨frame, found, bound⟩ := binds
  exact ⟨frame, found, Frame.rel_findFunction? (fun _ _ declared => ⟨declared.named, declared.arity⟩) bound name arity⟩

/-- What becomes of a world when functions are declared in a scope. -/
structure World.Declares (g : ScopeId) (w w' : World) : Prop where
  number : w.space.nextNumber ≤ w'.space.nextNumber
  global : ∀ f, w.space.frame? g = some f → ∃ f', w'.space.frame? g = some f' ∧ f'.parent = f.parent ∧ f'.vars = f.vars
  others : ∀ i, i ≠ g → w'.space.frame? i = w.space.frame? i
  bodies : ∀ n < w.space.nextNumber, w'.bodies.get? n = w.bodies.get? n
  store : w'.store = w.store
  methods : w'.methods = w.methods

namespace World.Declares

variable {g : ScopeId} {w w' w'' : World}

theorem refl (g : ScopeId) (w : World) : Declares g w w :=
  ⟨Nat.le_refl _, fun f found => ⟨f, found, rfl, rfl⟩, fun _ _ => rfl, fun _ _ => rfl, rfl, rfl⟩

theorem trans (first : Declares g w w') (second : Declares g w' w'') : Declares g w w'' where
  number := Nat.le_trans first.number second.number
  global f found := by
    obtain ⟨f', found', parent, vars⟩ := first.global f found
    obtain ⟨f'', found'', parent', vars'⟩ := second.global f' found'
    exact ⟨f'', found'', parent'.trans parent, vars'.trans vars⟩
  others i other := (second.others i other).trans (first.others i other)
  bodies n old := (second.bodies n (Nat.lt_of_lt_of_le old first.number)).trans (first.bodies n old)
  store := second.store.trans first.store
  methods := second.methods.trans first.methods

/-- The variables of the global scope stay as they are. -/
theorem inside {R : Variable → Variable → Prop} {vs : List Variable} (declares : Declares g w w')
    (inside : w.space.Inside R g g [vs]) : w'.space.Inside R g g [vs] := by
  obtain ⟨f, vs', found, same, bound⟩ := inside.at_global
  cases same
  obtain ⟨f', found', -, vars⟩ := declares.global f found
  exact .global found' (vars.symm ▸ bound)

/-- So does what lies around the global scope. -/
theorem around {f : Frame} (declares : Declares g w w') (found : w.space.frame? g = some f) {α : Type}
    (pick : Frame → Option α) :
    ((w'.space.parent? g).bind fun p => w'.space.findUp pick p) =
      (w.space.parent? g).bind fun p => w.space.findUp pick p := by
  obtain ⟨f', found', parent, -⟩ := declares.global f found
  exact Space.around_congr found found' parent (fun i lt => declares.others i (Nat.ne_of_lt lt)) pick

end World.Declares

namespace Run

/-- Declares what a program declares, in a new scope inside the given one. -/
def opening (fuel calls : Nat) (outer : ScopeId) (s : Source) : Run ScopeId := do
  let scope ← child outer
  declareFields fuel calls scope s.fields
  declareMethods scope s.methods
  return scope

/-- Runs a program in a new scope inside the given one, with so many nested calls to go. -/
def program (fuel calls : Nat) (outer : ScopeId) (s : Source) : Run Value := do
  let scope ← opening fuel calls outer s
  let main ← functionOf scope "main" 0
  invoke fuel calls main []

theorem program_eq_source (fuel calls : Nat) (outer : ScopeId) (s : Source) :
    program fuel calls outer s = child outer >>= fun scope => source fuel calls scope s := by
  simp only [program, opening, bind_assoc, pure_bind]
  rfl

theorem runSource_eq_program (fuel calls : Nat) (outer : ScopeId) (s : Source) :
    runSource fuel outer s calls = program fuel calls outer s :=
  (program_eq_source fuel calls outer s).symm

variable {c : Context} {g : ScopeId} {ms : List Method} {fs fs' : List Function} {w : World}

/-- What becomes of a world when a method is declared as a function. -/
structure DeclaresMethod (g : ScopeId) (frame : Frame) (m : Method) (w : World) (d : Function) (w' : World) :
    Prop where
  named : d.name = m.name
  arity : d.arity = m.params.length
  numbered : d.number = w.space.nextNumber
  next : w'.space.nextNumber = w.space.nextNumber + 1
  added : w'.space.frame? g = some { frame with funs := d :: frame.funs }
  bodies : ∀ n, w'.bodies.get? n =
    if n = d.number then some (.method (m.params.map Param.name) m.body g) else w.bodies.get? n
  declares : w.Declares g w'

theorem declaresMethod_of_eq_ok {frame : Frame} {m : Method} {d : Function} {w' : World}
    (found : w.space.frame? g = some frame) (ran : declareMethod g m w = .ok d w') :
    DeclaresMethod g frame m w d w' := by
  dsimp only [declareMethod] at ran
  split at ran
  next => cases ran
  next space f declared =>
    cases ran
    obtain ⟨named, params, -, declares⟩ := Space.declaresFunction_of_eq_some found declared
    let w' : World := { w with space }.setBody d (.method (m.params.map Param.name) m.body g)
    have bodies : ∀ n, w'.bodies.get? n =
        if n = d.number then some (.method (m.params.map Param.name) m.body g) else w.bodies.get? n :=
      fun n => Table.get?_set w.bodies d.number n _
    refine ⟨named, ?_, declares.numbered, declares.next, declares.added, bodies, ?_⟩
    · rw [Function.arity, params, List.length_map, List.length_map]
    · refine ⟨?_, fun f found' => ?_, declares.others, fun n old => ?_, rfl, rfl⟩
      · exact declares.next ▸ Nat.le_succ _
      · rw [found] at found'
        cases found'
        exact ⟨_, declares.added, rfl, rfl⟩
      · rw [bodies, if_neg]
        rw [declares.numbered]
        exact Nat.ne_of_lt old

/-- A method whose name and arity are free can be declared. -/
theorem exists_declareMethod {frame : Frame} {m : Method} (found : w.space.frame? g = some frame)
    (free : frame.findFunction? m.name m.params.length = none) :
    ∃ d w', declareMethod g m w = .ok d w' ∧ DeclaresMethod g frame m w d w' := by
  have length : ((m.params.map Param.name).map fun _ => Ty.any).length = m.params.length := by
    rw [List.length_map, List.length_map]
  obtain ⟨space, d, declared⟩ := Space.exists_declareFunction? found (length.symm ▸ free) .any
  have ran : declareMethod g m w =
      .ok d ({ w with space }.setBody d (.method (m.params.map Param.name) m.body g)) := by
    dsimp only [declareMethod]
    rw [declared]
  exact ⟨d, _, ran, declaresMethod_of_eq_ok found ran⟩

/-- A method that a program is settled with can be declared, and is bound from then on. -/
theorem declareMethod_ok {m : Method} {f : Function} (binds : Binds c g ms fs w) (mem : m ∈ ms)
    (free : ∀ h ∈ fs, ¬ (h.name = f.name ∧ h.arity = f.arity))
    (admitted : Context.AdmitsMethod { c with funs := f :: fs } m f) :
    ∃ d w', declareMethod g m w = .ok d w' ∧ w.Declares g w' ∧ Binds c g ms (f :: fs) w' := by
  obtain ⟨frame, found, bound⟩ := binds
  have absent : frame.findFunction? m.name m.params.length = none := by
    rw [← admitted.named, ← admitted.arity]
    exact Frame.findFunction?_eq_none (fun _ _ declared => ⟨declared.named, declared.arity⟩) bound free
  obtain ⟨d, w', ran, method⟩ := exists_declareMethod found absent
  refine ⟨d, w', ran, method.declares, _, method.added, .cons ?_ (bound.imp fun e h known => ?_)⟩
  · refine ⟨method.named.trans admitted.named.symm, method.arity.trans admitted.arity.symm, ?_, m, mem, f :: fs,
      admitted, .refl _, ?_⟩
    · rw [method.next, method.numbered]
      exact Nat.lt_succ_self _
    · rw [method.bodies, if_pos rfl]
  · obtain ⟨m', mem', funs, admitted', kept, body⟩ := known.method
    refine ⟨known.named, known.arity, ?_, m', mem', funs, admitted', kept.cons free, ?_⟩
    · exact Nat.lt_of_lt_of_le known.old method.declares.number
    · exact (method.declares.bodies _ known.old).trans body

/-- The methods of a settled program can all be declared. -/
theorem declareMethods_ok {rest : List Method} (admitted : c.AdmitsMethods fs rest fs') (binds : Binds c g ms fs w)
    (sub : ∀ m ∈ rest, m ∈ ms) :
    ∃ w', declareMethods g rest w = .ok () w' ∧ w.Declares g w' ∧ Binds c g ms fs' w' := by
  induction admitted generalizing w with
  | nil => exact ⟨w, rfl, .refl g w, binds⟩
  | @cons fs fs' m rest f free first others ih =>
    obtain ⟨d, w₁, declared, declares₁, binds₁⟩ := declareMethod_ok binds (sub m (.head _)) free first
    obtain ⟨w₂, ended, declares₂, binds₂⟩ := ih binds₁ fun m mem => sub m (.tail _ mem)
    refine ⟨w₂, ?_, declares₁.trans declares₂, binds₂⟩
    change EStateM.bind (declareMethod g m) (fun _ => declareMethods g rest) w = .ok () w₂
    rw [EStateM.bind, declared]
    exact ended

end Run

end Primer
