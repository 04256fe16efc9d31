import Primer.Proofs.Run.Checked
import Primer.Proofs.Run.Closed
import Primer.Proofs.Run.Told

/-!
# Which function a call starts

The check goes through the methods one by one and settles each call with the functions bound so far; a run
declares all methods before it calls any. So the two agree on a call unless the check settles it with a
function from around the program and the program declares a method of that name and arity later on. From
then on the method hides the other function, and it is the method that the run starts.

`Starts` says which function a call is to start, and `checked_program_starts` that each call of a checked
program does so, in all of its runs and over any world.
-/

namespace Primer

/-- Which function of a run a call starts, by where it stands, what it is called with, and the function that
it was settled with. -/
inductive Starts (outer? : Meaning) (ms : List Method) (events : List Event) :
    Home → String → Nat → Function → Function → Prop
  | method {home : Home} {name : String} {arity : Nat} {m : Method} {f d : Function} (mem : m ∈ ms)
      (settled : m.callee = some f) (declared : .declared m d ∈ events) :
      Starts outer? ms events home name arity f d
  | field {g : ScopeId} {name : String} {arity : Nat} {f : Function} (found : outer? name arity = some f) :
      Starts outer? ms events (.field g) name arity f f
  | outer {home : Home} {name : String} {arity : Nat} {f : Function} (found : outer? name arity = some f)
      (unhidden : ∀ m ∈ ms, ¬ (m.name = name ∧ m.params.length = arity)) :
      Starts outer? ms events home name arity f f
  | hidden {g : ScopeId} {m : Method} {f d : Function} (mem : m ∈ ms)
      (found : outer? m.name m.params.length = some f) (declared : .declared m d ∈ events) :
      Starts outer? ms events (.method g) m.name m.params.length f d

theorem Starts.mono {outer? : Meaning} {ms : List Method} {events events' : List Event}
    {home : Home} {name : String} {arity : Nat} {f d : Function}
    (starts : Starts outer? ms events home name arity f d) (more : events ⊆ events') :
    Starts outer? ms events' home name arity f d := by
  cases starts with
  | method mem settled declared => exact .method mem settled (more declared)
  | field found => exact .field found
  | outer found unhidden => exact .outer found unhidden
  | hidden mem found declared => exact .hidden mem found (more declared)

/-! ## Declaring methods, with a trace -/

/-- That a function of a run was declared from the method that was settled with a function. -/
structure DeclaredFrom (ms : List Method) (events : List Event) (d f : Function) : Prop where
  key : d.name = f.name ∧ d.arity = f.arity
  method : ∃ m ∈ ms, m.callee = some f ∧ f.name = m.name ∧ f.arity = m.params.length ∧ .declared m d ∈ events

/-- That the global scope of a program binds the functions declared so far, and that the code of the program
in the world is that of methods settled with no more functions than these. -/
structure Declaring (c : Context) (g : ScopeId) (ms : List Method) (fs : List Function) (t : Traced) : Prop where
  functions : ∃ frame, t.world.space.frame? g = some frame ∧ List.Forall₂ (DeclaredFrom ms t.events) frame.funs fs
  bodies : ∀ n params body, t.world.bodies.get? n = some (.method params body g) →
    ∃ funs, Function.FoundIn funs fs ∧ Stmt.SettledAll { c with funs }.functionOf? body

namespace Declaring

variable {c : Context} {g : ScopeId} {ms : List Method} {fs fs' : List Function} {t : Traced}

theorem declareMethod {m : Method} {f : Function} (declaring : Declaring c g ms fs t) (mem : m ∈ ms)
    (free : ∀ h ∈ fs, ¬ (h.name = f.name ∧ h.arity = f.arity))
    (admitted : Context.AdmitsMethod { c with funs := f :: fs } m f) :
    ∃ d w, Run.declareMethod g m t.world = .ok d w ∧ t.world.Declares g w ∧
      Declaring c g ms (f :: fs) { world := w, events := .declared m d :: t.events } := by
  obtain ⟨⟨frame, found, bound⟩, bodies⟩ := declaring
  have absent : frame.findFunction? m.name m.params.length = none := by
    rw [← admitted.named, ← admitted.arity]
    exact Frame.findFunction?_eq_none (fun _ _ declared => declared.key) bound free
  obtain ⟨d, w, ran, method⟩ := Run.exists_declareMethod found absent
  refine ⟨d, w, ran, method.declares, ⟨_, method.added, .cons ?_ (bound.imp fun e h known => ?_)⟩, ?_⟩
  · refine ⟨⟨method.named.trans admitted.named.symm, method.arity.trans admitted.arity.symm⟩, m, mem, ?_⟩
    exact ⟨admitted.settled, admitted.named, admitted.arity, .head _⟩
  · obtain ⟨m', mem', settled, named, arity, declared⟩ := known.method
    exact ⟨known.key, m', mem', settled, named, arity, .tail _ declared⟩
  · intro n params body isBody
    dsimp only at isBody
    rw [method.bodies] at isBody
    split at isBody
    · cases isBody
      exact ⟨f :: fs, .refl _, admitted.settledBody⟩
    · obtain ⟨funs, kept, settled⟩ := bodies n params body isBody
      exact ⟨funs, kept.cons free, settled⟩

/-- The methods of a settled program are declared one after the other, and nothing else is told meanwhile. -/
theorem declareMethods {rest : List Method} (admitted : c.AdmitsMethods fs rest fs')
    (declaring : Declaring c g ms fs t) (sub : ∀ m ∈ rest, m ∈ ms) :
    ∃ t', Trace.conduct.declareMethods g rest t = .ok () t' ∧ t.world.Declares g t'.world ∧ Declaring c g ms fs' t' ∧
      ∀ e ∈ t'.events, e ∈ t.events ∨ ∃ m d, e = .declared m d := by
  induction admitted generalizing t with
  | nil => exact ⟨t, rfl, .refl g _, declaring, fun _ => .inl⟩
  | @cons fs fs' m rest f free first others ih =>
    obtain ⟨d, w, ran, declares, declaring'⟩ := declaring.declareMethod (sub m (.head _)) free first
    obtain ⟨t', ended, declares', declaring'', events⟩ := ih declaring' fun m mem => sub m (.tail _ mem)
    refine ⟨t', ?_, declares.trans declares', declaring'', fun e mem => ?_⟩
    · have lifted : TracedRun.lift (Run.declareMethod g m) t = .ok d { t with world := w } := by
        rw [TracedRun.lift, ran]
      have declared : Trace.conduct.declareMethod g m t =
          .ok d { t with world := w, events := .declared m d :: t.events } :=
        Conduct.bind_of_eq_ok lifted _
      exact (Conduct.bind_of_eq_ok declared _).trans ended
    · rcases events e mem with (_ | ⟨_, old⟩) | new
      · exact .inr ⟨m, d, rfl⟩
      · exact .inl old
      · exact .inr new

/-- Once all methods are declared, names are linked to the functions that calls in methods are to start. -/
theorem linked (declaring : Declaring c g ms fs t)
    (outer : ∀ name arity, ((t.world.space.parent? g).bind fun p => t.world.space.lookupFunction? p name arity) =
      c.outerFunction? name arity)
    (all : ∀ m ∈ ms, ∃ f ∈ fs, f.name = m.name ∧ f.arity = m.params.length) :
    Linked (.method g) (fun means => ∃ funs, Function.FoundIn funs fs ∧ means = { c with funs }.functionOf?)
      (Starts c.outerFunction? ms t.events (.method g)) t.world := by
  obtain ⟨⟨frame, found, bound⟩, bodies⟩ := declaring
  refine ⟨⟨frame, found⟩, ?_, fun n params body isBody => ?_⟩
  · rintro _ ⟨funs, kept, rfl⟩ name arity f isMeant
    change ∃ d, t.world.space.lookupFunction? g name arity = some d ∧ _
    rw [Space.lookupFunction?_of_frame? found, outer]
    have same := Frame.rel_findFunction? (fun _ _ declared => declared.key) bound name arity
    generalize isHere : frame.findFunction? name arity = here at same
    generalize isThere : fs.find? (fun f => f.name == name && f.arity == arity) = there at same
    rcases Option.or_eq_some_iff.mp isMeant with early | ⟨-, isOuter⟩
    · -- The check knew a method of the program, and the run knows it too.
      rw [kept name arity f early] at isThere
      subst isThere
      cases same with
      | some declared =>
        obtain ⟨m, mem, settled, -, -, isDeclared⟩ := declared.method
        exact ⟨_, rfl, .method mem settled isDeclared⟩
    · cases same with
      | none =>
        refine ⟨f, isOuter, .outer isOuter fun m mem isKey => ?_⟩
        obtain ⟨h, isFunction, named, isArity⟩ := all m mem
        rw [List.find?_eq_none] at isThere
        refine isThere h isFunction ?_
        simp [named, isArity, isKey]
      | @some d h declared =>
        have key := List.find?_some isThere
        rw [Bool.and_eq_true, beq_iff_eq, beq_iff_eq] at key
        obtain ⟨m, mem, -, named, isArity, isDeclared⟩ := declared.method
        obtain rfl : m.name = name := named.symm.trans key.1
        obtain rfl : m.params.length = arity := isArity.symm.trans key.2
        exact ⟨d, rfl, .hidden mem isOuter isDeclared⟩
  · obtain ⟨funs, kept, settled⟩ := bodies n params body isBody
    exact ⟨rfl, _, ⟨funs, kept, rfl⟩, settled⟩

end Declaring

/-! ## Whole programs -/

/-- In the new scope of a program, which has no methods yet, names mean what they mean around it. -/
theorem linked_start {w : World} (closed : w.Closed) (catalog : Catalog) (outer : ScopeId) (ms : List Method)
    (events : List Event) :
    Linked (.field w.space.frames.size) (· = (Context.start catalog w.space outer False).functionOf?)
      (Starts (w.space.lookupFunction? outer) ms events (.field w.space.frames.size))
      { w with space := (w.space.child outer).1 } := by
  have describes := Check.describes_start catalog w.space outer False
  obtain ⟨frame, found, funs⟩ := describes.global
  refine ⟨⟨frame, found⟩, ?_, fun n params body isBody => ?_⟩
  · rintro _ rfl name arity f isMeant
    have isOuter : w.space.lookupFunction? outer name arity = some f := isMeant
    refine ⟨f, ?_, .field isOuter⟩
    change (w.space.child outer).1.lookupFunction? w.space.frames.size name arity = some f
    rw [Space.lookupFunction?_of_frame? found, describes.outerCalls, Frame.findFunction?, funs]
    exact isOuter
  · obtain ⟨frame, found⟩ := closed n params body _ isBody
    exact absurd (Space.frame?_lt found) (Nat.lt_irrefl _)

open TracedRun (lift Tells)

/-- Calls in fields are those of code that knows no method of the program. -/
theorem declareFields_tells (fuel calls : Nat) {c : Context} {g : ScopeId} {fields : List Field}
    {vs vs' : List Variable} {link : String → Nat → Function → Function → Prop} {t : Traced}
    (admitted : c.AdmitsFields vs fields vs') (linked : Linked (.field g) (· = c.functionOf?) link t.world) :
    Tells (Told (.field g) link) t (Trace.conduct.declareFields fuel calls g fields) := by
  induction admitted generalizing t with
  | nil => exact TracedRun.tells_pure _
  | @cons vs vs' f fs v settled named free typed initialized others ih =>
    have first : Tells (Told (.field g) link) t (Trace.conduct.declareField fuel calls g f) := by
      unfold Conduct.declareField Conduct.declare
      cases isInitializer : f.initializer with
      | none => exact (TracedRun.tells_pure _).bind fun x t₁ _ _ => TracedRun.tells_bind g f.name x
      | some e =>
        obtain ⟨ty, isTyped, -⟩ := typed e isInitializer
        obtain ⟨frame, found⟩ := linked.global
        have stands : Stands (.field g) (· = c.functionOf?) link (.field g) g t.world fun means => e.Settled means :=
          ⟨linked, fun _ => ⟨rfl, .global found, _, rfl, isTyped.settled⟩⟩
        refine (Trace.evaluate_tells fuel calls stands).bind fun x t₁ _ _ => ?_
        exact TracedRun.tells_bind g f.name x
    exact first.bind fun _ t₁ _ evolves => ih (linked.evolve evolves)

/-- That an event, if it is a call of the program declared in a scope, is one of a call that was settled and
started the function that it was to start. -/
def Agrees (outer? : Meaning) (ms : List Method) (events : List Event) (g : ScopeId) :
    Event → Prop
  | .declared _ _ => True
  | .called home name arity callee started => home.program = g →
    ∃ f d, callee = some f ∧ started = some d ∧ Starts outer? ms events home name arity f d

theorem Told.agrees {outer? : Meaning} {ms : List Method} {events events' : List Event}
    {own : Home} {e : Event} (told : Told own (Starts outer? ms events own) e) (more : events ⊆ events') :
    Agrees outer? ms events' own.program e := by
  cases e with
  | declared => trivial
  | called home name arity callee started =>
    intro same
    obtain ⟨rfl, f, d, isCallee, isStarted, starts⟩ := told same
    exact ⟨f, d, isCallee, isStarted, starts.mono more⟩

/-- A program runs in the scope that is numbered next. -/
theorem program_eq (fuel calls : Nat) (outer : ScopeId) (s : Source) (w : World) :
    Trace.program fuel calls outer s { world := w } = (do
      Trace.conduct.declareFields fuel calls w.space.frames.size s.fields
      Trace.conduct.declareMethods w.space.frames.size s.methods
      let main ← lift (Run.functionOf w.space.frames.size "main" 0)
      Trace.conduct.invoke fuel calls main [] : TracedRun Value)
        { world := { w with space := (w.space.child outer).1 } } := by
  rw [← Space.child_snd w.space outer]
  rfl

/-- Once the fields of a program are declared, its methods can be. -/
theorem declaring_start {w w' : World} (closed : w.Closed) (catalog : Catalog) (outer : ScopeId) (ms : List Method)
    (frames : List (List Variable)) (evolves : World.Evolves { w with space := (w.space.child outer).1 } w')
    (events : List Event) :
    Declaring { Context.start catalog w.space outer False with frames } w.space.frames.size ms []
        { world := w', events } ∧
      ∀ name arity, ((w'.space.parent? w.space.frames.size).bind fun p => w'.space.lookupFunction? p name arity) =
        w.space.lookupFunction? outer name arity := by
  have describes := Check.describes_start catalog w.space outer False
  obtain ⟨frame, found, funs⟩ := describes.global
  obtain ⟨frame', found', -, funs'⟩ := evolves.space.exists_frame found
  refine ⟨⟨⟨frame', found', ?_⟩, fun n params body isBody => ?_⟩, fun name arity => ?_⟩
  · rw [funs', funs]
    exact .nil
  · dsimp only at isBody
    rw [evolves.bodies] at isBody
    obtain ⟨frame, found⟩ := closed n params body _ isBody
    exact absurd (Space.frame?_lt found) (Nat.lt_irrefl _)
  · exact (evolves.space.aroundFunction?_eq found name arity).trans (describes.outerCalls name arity)

/-- Every call of a settled program starts the function that it is to start. -/
theorem program_agrees (fuel calls : Nat) {catalog : Catalog} {outer : ScopeId} {w : World} {s : Source}
    {vs : List Variable} {fs : List Function} (closed : w.Closed)
    (admits : (Context.start catalog w.space outer False).AdmitsSource s vs fs) :
    ∀ e ∈ Trace.events fuel calls outer s w,
      Agrees (w.space.lookupFunction? outer) s.methods (Trace.events fuel calls outer s w) w.space.frames.size e := by
  have fields := declareFields_tells fuel calls (t := { world := { w with space := (w.space.child outer).1 } })
    admits.fields (linked_start closed catalog outer s.methods [])
  obtain ⟨evolves, early, isEarly, told⟩ := fields
  rw [Trace.events, program_eq]
  cases ran : Trace.conduct.declareFields fuel calls w.space.frames.size s.fields
      { world := { w with space := (w.space.child outer).1 } } with
  | error stop t =>
    rw [ran] at isEarly
    rw [Conduct.bind_of_eq_error ran]
    dsimp only [TracedRun.last] at isEarly ⊢
    rw [isEarly, List.append_nil]
    exact fun e mem => (told e mem).agrees (List.nil_subset _)
  | ok _ t =>
    rw [ran] at isEarly evolves
    dsimp only [TracedRun.last] at isEarly evolves
    obtain ⟨declaring, around⟩ := declaring_start closed catalog outer s.methods [vs] evolves t.events
    obtain ⟨frame, found, -⟩ := declaring.functions
    obtain ⟨t', ran', declares, declaring', events⟩ := declaring.declareMethods admits.methods fun _ mem => mem
    have linked := declaring'.linked (fun name arity => (declares.around found _).trans (around name arity))
      fun _ mem => admits.methods.exists_function mem
    have called : Tells (Told (.method w.space.frames.size) _) t' (do
        let main ← lift (Run.functionOf w.space.frames.size "main" 0)
        Trace.conduct.invoke fuel calls main []) :=
      (TracedRun.tells_lift (Run.keeping_functionOf · _ _ _)).bind fun main t₁ _ evolves =>
        Trace.invoke_tells fuel calls (linked.evolve evolves)
    obtain ⟨-, late, isLate, told'⟩ := called
    rw [Conduct.bind_of_eq_ok ran, Conduct.bind_of_eq_ok ran', isLate]
    intro e mem
    rcases List.mem_append.mp mem with isNew | isOld
    · exact (told' e isNew).agrees (List.subset_append_right _ _)
    · rcases events e isOld with isOlder | ⟨m, d, rfl⟩
      · rw [isEarly, List.append_nil] at isOlder
        exact (told e isOlder).agrees (List.nil_subset _)
      · trivial

/-- **Calls.** In every run of a checked program over the world that it was checked for, each call of the
program finds the function that it is to start. -/
theorem checked_program_starts {catalog : Catalog} {needsMain : Bool} {w : World} {outer : ScopeId} {s : Source}
    (closed : w.Closed) (accepted : (checkSource catalog needsMain w.space outer s).result = .ok ())
    (fuel calls : Nat) :
    TracedRun.forget (Trace.program fuel calls outer (checkSource catalog needsMain w.space outer s).tree
        { world := w }) =
      Run.program fuel calls outer (checkSource catalog needsMain w.space outer s).tree w ∧
    ∀ home name arity callee started,
      .called home name arity callee started ∈
        Trace.events fuel calls outer (checkSource catalog needsMain w.space outer s).tree w →
      home.program = w.space.frames.size →
      ∃ f d, callee = some f ∧ started = some d ∧
        Starts (w.space.lookupFunction? outer) (checkSource catalog needsMain w.space outer s).tree.methods
          (Trace.events fuel calls outer (checkSource catalog needsMain w.space outer s).tree w)
          home name arity f d := by
  obtain ⟨vs, fs, admits, -⟩ := Check.checkSource_sound False accepted False.elim
  refine ⟨Trace.program_erases fuel calls outer _ { world := w }, fun home name arity callee started mem => ?_⟩
  exact program_agrees fuel calls closed admits _ mem

open CommandLine (rootWorld rootWorld_closed)

/-- A program that prints from a field and from its main method, and then declares a method that hides the
function it printed with. -/
def hiddenPrint : Source where
  fields := [{
    name := "greeting", typeName := "Any", offset := 0
    initializer := some (.call "print" [.literal (.str "hello") 26] 20) }]
  methods := [
    { name := "main", params := [], resultTypeName := some "Integer", offset := 36
      body := [.expression (.call "print" [.literal (.str "x") 65] 59) 59, .ret (.literal (.int 0) 78) 71] },
    { name := "print", params := [⟨"x", "Any"⟩], resultTypeName := none, offset := 85, body := [] }]

theorem hiddenPrint_accepted : (checkSource {} true rootWorld.1.space rootWorld.2 hiddenPrint).result = .ok () := by
  decide +kernel

/-- Whether an event is a call that was settled with the function of the root scope and started another. -/
def Event.startsOther : Event → Bool
  | .called home name arity callee (some d) => decide (d ≠ rootPrint ∧
      home = .method rootWorld.1.space.frames.size ∧ name = "print" ∧ arity = 1 ∧ callee = some rootPrint)
  | _ => false

theorem exists_call_of_hiddenPrint :
    ∃ d, d ≠ rootPrint ∧ .called (.method rootWorld.1.space.frames.size) "print" 1 (some rootPrint) (some d) ∈
      Trace.events 20 5 rootWorld.2 (checkSource {} true rootWorld.1.space rootWorld.2 hiddenPrint).tree
        rootWorld.1 := by
  have found : (Trace.events 20 5 rootWorld.2
      (checkSource {} true rootWorld.1.space rootWorld.2 hiddenPrint).tree rootWorld.1).any
        Event.startsOther = true := by
    decide +kernel
  obtain ⟨e, mem, isCall⟩ := List.any_eq_true.mp found
  unfold Event.startsOther at isCall
  split at isCall
  · obtain ⟨other, rfl, rfl, rfl, rfl⟩ := of_decide_eq_true isCall
    exact ⟨_, other, mem⟩
  · cases isCall

/-- The method that hides the function is what the call in the main method starts. -/
theorem hiddenPrint_starts :
    rootWorld.1.Closed ∧ (checkSource {} true rootWorld.1.space rootWorld.2 hiddenPrint).result = .ok () ∧
      ∃ d, d ≠ rootPrint ∧
        Starts (rootWorld.1.space.lookupFunction? rootWorld.2)
          (checkSource {} true rootWorld.1.space rootWorld.2 hiddenPrint).tree.methods
          (Trace.events 20 5 rootWorld.2 (checkSource {} true rootWorld.1.space rootWorld.2 hiddenPrint).tree
            rootWorld.1)
          (.method rootWorld.1.space.frames.size) "print" 1 rootPrint d := by
  obtain ⟨d, other, mem⟩ := exists_call_of_hiddenPrint
  obtain ⟨f, d', isCallee, isStarted, starts⟩ :=
    (checked_program_starts rootWorld_closed hiddenPrint_accepted 20 5).2 _ _ _ _ _ mem rfl
  cases isCallee
  cases isStarted
  exact ⟨rootWorld_closed, hiddenPrint_accepted, d, other, starts⟩

/-- So a call that was settled with the function of the root scope need not start that function. -/
theorem settled_call_starts_other :
    ∃ s, (checkSource {} true rootWorld.1.space rootWorld.2 s).result = .ok () ∧
      ∃ fuel calls d, d ≠ rootPrint ∧
        .called (.method rootWorld.1.space.frames.size) "print" 1 (some rootPrint) (some d) ∈
          Trace.events fuel calls rootWorld.2 (checkSource {} true rootWorld.1.space rootWorld.2 s).tree rootWorld.1 :=
  ⟨hiddenPrint, hiddenPrint_accepted, 20, 5, exists_call_of_hiddenPrint⟩

end Primer
