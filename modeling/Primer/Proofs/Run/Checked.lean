import Primer.CommandLine.Program
import Primer.Proofs.Check.Soundness
import Primer.Proofs.Run.Declarations
import Primer.Proofs.Run.Safety

/-!
# Running checked programs

The whole way of a program over the root scope: a new scope, the fields, the methods, and then the main
method. `Ready` holds after each of these steps, and makes the world sound for the next.

**The laws** are two. A run of a program that passed the check, with a main method, never stops for the sake
of a name (`checked_program_resolves_names`), even where it stops for another reason. If the program is also
strict, its runs never stop for the sake of a kind either (`strict_program_keeps_kinds`).
-/

namespace Primer

/-- That a world is ready for what comes next of a program, with the variables and functions that it has
declared so far. -/
structure Ready (c : Context) (g : ScopeId) (ms : List Method) (k : Known) (vs : List Variable)
    (fs : List Function) (w : World) : Prop where
  catalog : c.catalog = {}
  alone : ∀ name, c.outerVariable? name = none
  typed : w.Typed c.strict k
  global : w.space.Inside k.Matches g g [vs]
  binds : Binds { c with frames := [vs] } g ms fs w
  outer : ∀ name arity,
    ((w.space.parent? g).bind fun p => w.space.lookupFunction? p name arity) = c.outerFunction? name arity
  prints : ∀ name arity f, c.outerFunction? name arity = some f →
    f.arity = arity ∧ f.number < w.space.nextNumber ∧ f.result = .nil ∧
      w.bodies.get? f.number = some (.native Native.print)

/-- A method that was checked when only some functions were bound may run when all are. A strict program must
not hide a function by a later one. -/
theorem Context.within_of_kept {c : Context} {funs fs : List Function}
    (kept : Function.FoundIn funs fs)
    (unhidden : c.strict → ∀ name arity f, c.outerFunction? name arity = some f →
      fs.find? (fun f => f.name == name && f.arity == arity) = none) :
    { c with funs }.Within { c with funs := fs } where
  catalog := rfl
  outerVariable := rfl
  strict := id
  function := by
    intro name arity f found
    rcases Option.or_eq_some_iff.mp found with early | ⟨-, outer⟩
    · refine ⟨f, ?_, fun _ => rfl⟩
      rw [functionOf?, kept name arity f early, Option.some_or]
    · cases late : fs.find? (fun f => f.name == name && f.arity == arity) with
      | none =>
        refine ⟨f, ?_, fun _ => rfl⟩
        rw [functionOf?, late, Option.none_or, outer]
      | some h =>
        refine ⟨h, by rw [functionOf?, late, Option.some_or], fun strict => ?_⟩
        rw [unhidden strict name arity f outer] at late
        cases late

namespace Ready

variable {c : Context} {g : ScopeId} {ms : List Method} {k : Known} {vs : List Variable} {fs : List Function}
  {w : World}

/-- A world that is ready is sound, provided that a strict program hides no function. -/
theorem sound (ready : Ready c g ms k vs fs w)
    (unhidden : c.strict → ∀ name arity f, c.outerFunction? name arity = some f →
      fs.find? (fun f => f.name == name && f.arity == arity) = none) :
    Sound { c with frames := [vs], funs := fs } g k w where
  catalog := ready.catalog
  alone := ready.alone
  typed := ready.typed
  global := ready.global
  functions := by
    intro name arity f isFound
    obtain ⟨frame, found, same⟩ := ready.binds.rel_findFunction? name arity
    rw [Space.lookupFunction?_of_frame? found, ready.outer]
    rw [Context.functionOf?] at isFound
    dsimp only at isFound
    have key := fun h => List.find?_some (a := h) (l := fs) (p := fun f => f.name == name && f.arity == arity)
    generalize frame.findFunction? name arity = here at same
    generalize fs.find? (fun f => f.name == name && f.arity == arity) = there at same isFound key
    cases same with
    | none =>
      rw [Option.none_or] at isFound ⊢
      obtain ⟨isArity, -, result, body⟩ := ready.prints name arity f isFound
      exact ⟨isArity, f, isFound, .print body result⟩
    | @some d h declared =>
      cases isFound
      have isKey := key f rfl
      rw [Bool.and_eq_true, beq_iff_eq, beq_iff_eq] at isKey
      obtain ⟨m, -, funs, admitted, kept, body⟩ := declared.method
      have within := Context.within_of_kept (c := { c with frames := [vs] }) kept unhidden
      exact ⟨isKey.2, d, rfl, .method body within rfl admitted⟩

/-- A world in which no method is declared yet stays ready when variables are bound in the global scope. -/
theorem keep {w' : World} {k' : Known} {vs' : List Variable} (ready : Ready c g ms k vs [] w)
    (keeps : w.Keeps (fun _ _ => True) (· = g) w') (typed : w'.Typed c.strict k')
    (global : w'.space.Inside k'.Matches g g [vs']) : Ready c g ms k' vs' [] w' := by
  obtain ⟨frame, found, bound⟩ := ready.binds
  obtain ⟨frame', found', parent, funs⟩ := keeps.space.exists_frame found
  refine ⟨ready.catalog, ready.alone, typed, global, ⟨frame', found', ?_⟩, fun name arity => ?_, ?_⟩
  · rw [funs, List.forall₂_nil_right_iff.mp bound]
    exact .nil
  · rw [← ready.outer]
    refine Space.around_congr found found' parent (fun i lt => ?_) _
    exact keeps.space.frame?_eq_of_lt (fun i same => Nat.le_of_eq same.symm) found lt
  · intro name arity f isFound
    obtain ⟨isArity, old, result, body⟩ := ready.prints name arity f isFound
    exact ⟨isArity, Nat.lt_of_lt_of_le old keeps.space.number, result, keeps.bodies.symm ▸ body⟩

/-- Fields are declared one after the other. -/
theorem declareField (fuel calls : Nat) {f : Field} {v : Variable} (ready : Ready c g ms k vs [] w)
    (named : v.name = f.name) (free : ∀ u ∈ vs, u.name ≠ v.name)
    (typed : ∀ e, f.initializer = some e →
      ∃ t, Context.Types { c with frames := [vs], funs := [] } e t ∧ v.type.accepts t)
    (initialized : c.strict → f.initializer ≠ none) :
    Run.Ends (Stop.Safe c.strict) w (fun _ w' => ∃ k', Ready c g ms k' (v :: vs) [] w')
      (Run.declareField fuel calls g f) := by
  have sound := ready.sound fun _ _ _ _ _ => rfl
  have bound : ∀ x k₁ w₁, Follows { c with frames := [vs], funs := [] } g (fun _ => False) k w k₁ w₁ →
      (c.strict → v.type.Holds x) →
      Run.Ends (Stop.Safe c.strict) w₁ (fun _ w' => ∃ k', Ready c g ms k' (v :: vs) [] w') (Run.bind g f.name x) := by
    intro x k₁ w₁ follows holds
    obtain ⟨k₂, w₂, bound, keeps, -, typed, global⟩ :=
      Run.bind_learns follows.sound.typed follows.sound.global free holds
    rw [← named, Run.Ends, bound]
    have keeps' := (follows.keeps.mono fun _ => False.elim).trans (Store.allows_any w.bodies) keeps
    exact ⟨k₂, ready.keep keeps' typed global⟩
  unfold Run.declareField Conduct.declareField Conduct.declare
  cases isInitializer : f.initializer with
  | none => exact bound .nil k w (.refl sound) fun strict => absurd isInitializer (initialized strict)
  | some e =>
    obtain ⟨t, typed, accepted⟩ := typed e isInitializer
    have placed : Placed { c with frames := [vs], funs := [] } g k { c with frames := [vs], funs := [] } g w :=
      ⟨.refl _, sound.global⟩
    have evaluated := Run.evaluate_safe fuel calls sound placed typed
    refine Run.Ends.bind evaluated ?_
    rintro x w₁ ⟨k₁, follows, holds⟩
    exact bound x k₁ w₁ follows fun strict => Ty.holds_of_accepts accepted (holds strict)

theorem declareFields (fuel calls : Nat) {fields : List Field} {vs' : List Variable} (ready : Ready c g ms k vs [] w)
    (admitted : Context.AdmitsFields { c with funs := [] } vs fields vs') :
    Run.Ends (Stop.Safe c.strict) w (fun _ w' => ∃ k', Ready c g ms k' vs' [] w')
      (Run.declareFields fuel calls g fields) := by
  induction admitted generalizing k w with
  | nil => exact ⟨k, ready⟩
  | cons settled named free typed initialized _ ih =>
    refine Run.Ends.bind (ready.declareField fuel calls named free typed initialized) ?_
    rintro _ w' ⟨k', ready'⟩
    exact ih ready'

theorem declareMethods (ready : Ready c g ms k vs [] w)
    (admitted : Context.AdmitsMethods { c with frames := [vs] } [] ms fs) :
    ∃ w', Run.declareMethods g ms w = .ok () w' ∧ Ready c g ms k vs fs w' := by
  obtain ⟨frame, found, -⟩ := ready.binds
  obtain ⟨w', ended, declares, binds⟩ := Run.declareMethods_ok admitted ready.binds fun _ mem => mem
  refine ⟨w', ended, ready.catalog, ready.alone, ?_, declares.inside ready.global, binds, ?_, ?_⟩
  · intro d t known
    obtain ⟨old, holds⟩ := ready.typed d t known
    exact ⟨Nat.lt_of_lt_of_le old declares.number, declares.store.symm ▸ holds⟩
  · exact fun name arity => (declares.around found _).trans (ready.outer name arity)
  · intro name arity f isFound
    obtain ⟨isArity, old, result, body⟩ := ready.prints name arity f isFound
    exact ⟨isArity, Nat.lt_of_lt_of_le old declares.number, result, (declares.bodies _ old).trans body⟩

/-- The function of a name that means something to the check is found, and can be called without arguments. -/
theorem call (fuel calls : Nat) (ready : Ready c g ms k vs fs w)
    (unhidden : c.strict → ∀ name arity f, c.outerFunction? name arity = some f →
      fs.find? (fun f => f.name == name && f.arity == arity) = none) {name : String} {f : Function}
    (found : { c with funs := fs }.functionOf? name 0 = some f) :
    Run.Ends (Stop.Safe c.strict) w (fun _ _ => True)
      (Run.functionOf g name 0 >>= fun d => Run.invoke fuel calls d []) := by
  have sound := ready.sound unhidden
  have placed : Placed { c with frames := [vs], funs := fs } g k { c with frames := [vs], funs := fs } g w :=
    ⟨.refl _, sound.global⟩
  have looked : Run.Safe _ g (fun _ => False) k w _ (Run.functionOf g name 0) := Run.safe_functionOf sound placed found
  refine Run.Ends.bind looked ?_
  rintro d w₁ ⟨k₁, follows, f', realises, isArity, -⟩
  have enough : ([] : List Value).length = f'.arity := isArity.symm
  have given : c.strict → List.Forall₂ Ty.Holds f'.params [] := by
    rw [List.eq_nil_of_length_eq_zero isArity]
    exact fun _ => .nil
  have invoked := Run.invoke_safe fuel calls follows.sound realises enough given
  exact Run.Ends.imp invoked (fun _ => id) fun _ _ _ => trivial

/-- A name that means nothing to the check is not found. -/
theorem lookupFunction?_eq_none (ready : Ready c g ms k vs fs w) {name : String} {arity : Nat}
    (unknown : { c with funs := fs }.functionOf? name arity = none) :
    w.space.lookupFunction? g name arity = none := by
  obtain ⟨frame, found, same⟩ := ready.binds.rel_findFunction? name arity
  obtain ⟨unbound, outside⟩ := Option.or_eq_none_iff.mp unknown
  dsimp only at unbound
  rw [unbound] at same
  rw [Space.lookupFunction?_of_frame? found, ready.outer, outside]
  generalize frame.findFunction? name arity = here at same
  cases same
  rfl

end Ready

/-! ## Over the root scope -/

open CommandLine (rootWorld)

/-- The function that the root scope binds. -/
def rootPrint : Function :=
  ⟨0, "print", [.any], .nil, "System.out.println"⟩

theorem frame?_rootWorld : rootWorld.1.space.frame? rootWorld.2 = some { parent := none, funs := [rootPrint] } := by
  rfl

theorem lookupVariable?_rootWorld (name : String) : rootWorld.1.space.lookupVariable? rootWorld.2 name = none := by
  unfold Space.lookupVariable?
  rw [Space.findUp_eq, frame?_rootWorld]
  rfl

theorem eq_rootPrint {name : String} {arity : Nat} {f : Function}
    (found : rootWorld.1.space.lookupFunction? rootWorld.2 name arity = some f) : f = rootPrint := by
  rw [Space.lookupFunction?_of_frame? frame?_rootWorld, Space.parent?, frame?_rootWorld, Option.bind_some,
    Option.bind_none, Option.or_none] at found
  exact List.mem_singleton.mp (List.mem_of_find?_eq_some found)

/-- The world in which a program is to be run, with a new scope for it, is ready. -/
theorem ready_start (ms : List Method) (strict : Prop) :
    Ready (.start {} rootWorld.1.space rootWorld.2 strict) rootWorld.1.space.frames.size ms (fun _ => none) [] []
      { rootWorld.1 with space := (rootWorld.1.space.child rootWorld.2).1 } := by
  have describes := Check.describes_start {} rootWorld.1.space rootWorld.2 strict
  obtain ⟨frame, vs, found, same, bound⟩ := describes.inside.at_global
  obtain ⟨frame', found', funs⟩ := describes.global
  rw [found] at found'
  cases found'
  cases same
  refine ⟨rfl, lookupVariable?_rootWorld, nofun, .global found ?_, ⟨frame, found, ?_⟩, describes.outerCalls, ?_⟩
  · rw [List.forall₂_nil_right_iff.mp bound]
    exact .nil
  · rw [funs]
    exact .nil
  · intro name arity f isFound
    obtain rfl := eq_rootPrint isFound
    exact ⟨(Space.key_of_lookupFunction? isFound).2, by decide, rfl, rfl⟩

/-- A settled program can be declared in full, unless one of its fields fails. -/
theorem opening_ends (fuel calls : Nat) {strict : Prop} {s : Source} {vs : List Variable} {fs : List Function}
    (admits : (Context.start {} rootWorld.1.space rootWorld.2 strict).AdmitsSource s vs fs) :
    Run.Ends (Stop.Safe strict) rootWorld.1
      (fun scope w => ∃ k, Ready (.start {} rootWorld.1.space rootWorld.2 strict) scope s.methods k vs fs w)
      (Run.opening fuel calls rootWorld.2 s) := by
  have start := ready_start s.methods strict
  change Run.Ends (Stop.Safe strict) { rootWorld.1 with space := (rootWorld.1.space.child rootWorld.2).1 } _ (do
    Run.declareFields fuel calls (rootWorld.1.space.child rootWorld.2).2 s.fields
    Run.declareMethods (rootWorld.1.space.child rootWorld.2).2 s.methods
    return (rootWorld.1.space.child rootWorld.2).2)
  rw [Space.child_snd]
  have declared := start.declareFields fuel calls admits.fields
  refine Run.Ends.bind declared ?_
  rintro _ w₁ ⟨k₁, ready₁⟩
  obtain ⟨w₂, ran, ready₂⟩ := ready₁.declareMethods admits.methods
  have methods : Run.Ends (Stop.Safe strict) w₁ (fun _ w' => w' = w₂)
      (Run.declareMethods rootWorld.1.space.frames.size s.methods) := by
    rw [Run.Ends, ran]
  refine methods.bind ?_
  rintro _ _ rfl
  exact ⟨k₁, ready₂⟩

theorem Fault.family?_of_isOfNames {f : Fault} (other : f.isOfNames = false) :
    f.family? ≠ some "UnresolvedName" ∧ f.family? ≠ some "PlcRuntimeError" := by
  cases f with
  | variableExists | functionExists | notAssignable | unresolved => cases other
  | _ => simp [family?]

theorem Fault.family?_of_isOfKinds {f : Fault} (other : f.isOfKinds = false) :
    f.family? ≠ some "RuntimeTypeError" := by
  cases f with
  | wrongKind => cases other
  | _ => simp [family?]

/-- The fault that a run ended with. -/
def Run.fault? {α : Type} : EStateM.Result Stop World α → Option Fault
  | .error (.fault f) _ => some f
  | _ => none

theorem Run.Ends.of_fault? {α : Type} {may : Stop → Prop} {w : World} {post : α → World → Prop} {x : Run α} {f : Fault}
    (ends : Ends may w post x) (failed : fault? (x w) = some f) : may (.fault f) := by
  unfold Ends at ends
  cases ran : x w with
  | ok a w' =>
    rw [ran] at failed
    cases failed
  | error stop w' =>
    rw [ran] at failed ends
    cases stop with
    | fault f' =>
      cases failed
      exact ends
    | outOfFuel => cases failed

/-- **Names.** A run of a program that passed the check, with a main method, resolves every name and binds none
twice: no fault of names ends it, whatever else may, and once all is declared it finds the main method. -/
theorem checked_program_resolves_names {s : Source}
    (accepted : (checkSource {} true rootWorld.1.space rootWorld.2 s).result = .ok ()) (fuel calls : Nat) :
    (∀ f, Run.fault? (Run.program fuel calls rootWorld.2
        (checkSource {} true rootWorld.1.space rootWorld.2 s).tree rootWorld.1) = some f →
      f.family? ≠ some "UnresolvedName" ∧ f.family? ≠ some "PlcRuntimeError") ∧
    ∀ scope w, Run.opening fuel calls rootWorld.2 (checkSource {} true rootWorld.1.space rootWorld.2 s).tree
        rootWorld.1 = .ok scope w →
      ∃ main, Run.functionOf scope "main" 0 w = .ok main w := by
  obtain ⟨vs, fs, admits, hasMain⟩ := Check.checkSource_sound False accepted False.elim
  obtain ⟨main, isMain⟩ := hasMain rfl
  have opened := opening_ends fuel calls admits
  constructor
  · intro f failed
    have ends : Run.Ends (Stop.Safe False) rootWorld.1 (fun _ _ => True) (Run.program fuel calls rootWorld.2
        (checkSource {} true rootWorld.1.space rootWorld.2 s).tree) := by
      refine opened.bind ?_
      rintro scope w ⟨k, ready⟩
      exact ready.call fuel calls False.elim isMain
    exact Fault.family?_of_isOfNames (ends.of_fault? failed).1
  · intro scope w declared
    rw [Run.Ends, declared] at opened
    obtain ⟨k, ready⟩ := opened
    obtain ⟨-, d, found, -⟩ := (ready.sound False.elim).functions "main" 0 main isMain
    exact ⟨d, Run.functionOf_eq_ok found⟩

/-- A program that reads a variable before it has a value. -/
def unsetSum : Source where
  fields := []
  methods := [{
    name := "main", params := [], resultTypeName := some "Integer", offset := 0
    body := [.declaration "x" (some "Integer") none 23,
      .ret (.binary .add (.ref "x" 46) (.literal (.int 1) 50) 46) 39] }]

/-- A value of the wrong kind may end such a run, but no name does. -/
theorem unsetSum_resolves_names :
    (checkSource {} true rootWorld.1.space rootWorld.2 unsetSum).result = .ok () ∧
      ∃ f, Run.fault? (Run.program 9 1 rootWorld.2
          (checkSource {} true rootWorld.1.space rootWorld.2 unsetSum).tree rootWorld.1) = some f ∧
        f = .wrongKind "Integer or Decimal" "Nil" ∧
        f.family? ≠ some "UnresolvedName" ∧ f.family? ≠ some "PlcRuntimeError" := by
  have accepted : (checkSource {} true rootWorld.1.space rootWorld.2 unsetSum).result = .ok () := by decide +kernel
  have failed : Run.fault? (Run.program 9 1 rootWorld.2
      (checkSource {} true rootWorld.1.space rootWorld.2 unsetSum).tree rootWorld.1) =
        some (.wrongKind "Integer or Decimal" "Nil") := by
    decide +kernel
  exact ⟨accepted, _, failed, rfl, (checked_program_resolves_names accepted 9 1).1 _ failed⟩

/-- **Kinds.** A run of a program that passed the check, and that strictness has nothing to say against, never
meets a value of the wrong kind. -/
theorem strict_program_keeps_kinds {needsMain : Bool} {s : Source}
    (accepted : (checkSource {} needsMain rootWorld.1.space rootWorld.2 s).result = .ok ())
    (strict : (checkSource {} needsMain rootWorld.1.space rootWorld.2 s).tree.Strict)
    (unhidden : ∀ m ∈ (checkSource {} needsMain rootWorld.1.space rootWorld.2 s).tree.methods,
      ¬ (m.name = "print" ∧ m.params.length = 1))
    (fuel calls : Nat) (f : Fault)
    (failed : Run.fault? (Run.program fuel calls rootWorld.2
      (checkSource {} needsMain rootWorld.1.space rootWorld.2 s).tree rootWorld.1) = some f) :
    f.family? ≠ some "RuntimeTypeError" := by
  obtain ⟨vs, fs, admits, -⟩ := Check.checkSource_sound True accepted fun _ => strict
  have unhidden' : True → ∀ name arity f, rootWorld.1.space.lookupFunction? rootWorld.2 name arity = some f →
      fs.find? (fun f => f.name == name && f.arity == arity) = none := by
    intro _ name arity f found
    obtain ⟨rfl, rfl⟩ := Space.key_of_lookupFunction? found
    obtain rfl := eq_rootPrint found
    rw [List.find?_eq_none]
    intro h mem same
    rw [Bool.and_eq_true, beq_iff_eq, beq_iff_eq] at same
    rcases admits.methods.mem_or_exists mem with old | ⟨m, isMethod, -, named, arity⟩
    · cases old
    · exact unhidden m isMethod ⟨named.symm.trans same.1, arity.symm.trans same.2⟩
  have ends : Run.Ends (fun stop => ∀ f, stop = .fault f → f.isOfKinds = false) rootWorld.1 (fun _ _ => True)
      (Run.program fuel calls rootWorld.2 (checkSource {} needsMain rootWorld.1.space rootWorld.2 s).tree) := by
    have safe : ∀ stop, Stop.Safe True stop → ∀ f, stop = .fault f → f.isOfKinds = false := by
      rintro _ may f rfl
      exact may.2 trivial
    refine ((opening_ends fuel calls admits).imp safe fun _ _ => id).bind ?_
    rintro scope w ⟨k, ready⟩
    cases isMain : { Context.start {} rootWorld.1.space rootWorld.2 True with funs := fs }.functionOf? "main" 0 with
    | some main => exact (ready.call fuel calls unhidden' isMain).imp safe fun _ _ => id
    | none =>
      have absent := Run.functionOf_eq_error (ready.lookupFunction?_eq_none isMain)
      have stops : Run.Ends (fun stop => ∀ f, stop = .fault f → f.isOfKinds = false) w (fun _ _ => False)
          (Run.functionOf scope "main" 0) := by
        rw [Run.Ends, absent]
        rintro _ ⟨⟩
        rfl
      exact stops.bind fun _ _ => False.elim
  exact Fault.family?_of_isOfKinds (ends.of_fault? failed f rfl)

/-- A program that counts down from a field by recursion, and divides by zero at the end. -/
def countdown : Source where
  fields := [{ name := "limit", typeName := "Integer", initializer := some (.literal (.int 2) 21), offset := 0 }]
  methods := [
    { name := "down", params := [⟨"n", "Integer"⟩], resultTypeName := some "Integer", offset := 24
      body := [
        .conditional (.binary .gt (.ref "n" 65) (.literal (.int 0) 69) 65)
          [.declaration "n" none (some (.binary .sub (.ref "n" 82) (.literal (.int 1) 86) 82)) 74,
            .ret (.call "down" [.ref "n" 101] 96) 89] [] 62,
        .ret (.binary .div (.ref "limit" 117) (.ref "n" 125) 117) 110] },
    { name := "main", params := [], resultTypeName := some "Integer", offset := 132
      body := [.ret (.call "down" [.ref "limit" 167] 162) 155] }]

/-- Division by zero ends the run of the strict program, but no kind does. -/
theorem countdown_keeps_kinds :
    (checkSource {} true rootWorld.1.space rootWorld.2 countdown).result = .ok () ∧
      (checkSource {} true rootWorld.1.space rootWorld.2 countdown).tree.Strict ∧
      ∃ f, Run.fault? (Run.program 30 5 rootWorld.2
          (checkSource {} true rootWorld.1.space rootWorld.2 countdown).tree rootWorld.1) = some f ∧
        f = .divisionByZero ∧ f.family? ≠ some "RuntimeTypeError" := by
  have accepted : (checkSource {} true rootWorld.1.space rootWorld.2 countdown).result = .ok () := by decide +kernel
  have strict : (checkSource {} true rootWorld.1.space rootWorld.2 countdown).tree.Strict := by decide +kernel
  have unhidden : ∀ m ∈ (checkSource {} true rootWorld.1.space rootWorld.2 countdown).tree.methods,
      ¬ (m.name = "print" ∧ m.params.length = 1) := by
    decide +kernel
  have failed : Run.fault? (Run.program 30 5 rootWorld.2
      (checkSource {} true rootWorld.1.space rootWorld.2 countdown).tree rootWorld.1) = some .divisionByZero := by
    decide +kernel
  exact ⟨accepted, strict, _, failed, rfl, strict_program_keeps_kinds accepted strict unhidden 30 5 _ failed⟩

end Primer
