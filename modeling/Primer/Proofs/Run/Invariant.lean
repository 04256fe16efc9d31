import Primer.Proofs.Run.Conduct
import Primer.Proofs.Run.Frames
import Primer.Proofs.Value.Kinds

/-!
# What holds throughout a run of a checked program

A run keeps scopes of its own, and looks names up in them by itself. `Sound` relates them to what the check
knew: the global scope binds the variables of the program, every function that the program may call is
found from there, with a body that was admitted, and a variable that is known to be of a type has a value
of that type if the program is strict. `Placed` says the same of a scope and the context of the phrase that
runs in it.

`Run.Safe` is the contract of a step: it ends in a world that is sound again and has forgotten nothing, or
it stops with a fault that is not one of names nor, in a strict program, of kinds. The laws below give the
contract of every step that the run of a phrase is made of.
-/

namespace Primer

/-- What is known of the values of variables: their types, by the numbers of the variables. -/
abbrev Known := Nat → Option Ty

namespace Known

/-- That what is known stays known. -/
def Le (k k' : Known) : Prop :=
  ∀ n t, k n = some t → k' n = some t

/-- What is known when one more variable is. -/
def learn (k : Known) (n : Nat) (t : Ty) : Known :=
  fun m => if m = n then some t else k m

/-- That a variable of a run has the name of a checked one, and is known to be of its type. -/
def Matches (k : Known) (d v : Variable) : Prop :=
  d.name = v.name ∧ k d.number = some v.type

theorem Le.refl (k : Known) : k.Le k :=
  fun _ _ known => known

theorem Le.trans {k k' k'' : Known} (first : k.Le k') (second : k'.Le k'') : k.Le k'' :=
  fun n t known => second n t (first n t known)

theorem Le.learn {k : Known} {n : Nat} {t : Ty} (new : k n = none) : k.Le (k.learn n t) := by
  intro m u known
  have other : m ≠ n := by
    rintro rfl
    rw [new] at known
    cases known
  rw [Known.learn, if_neg other, known]

theorem Matches.mono {k k' : Known} {d v : Variable} (same : k.Matches d v) (more : k.Le k') : k'.Matches d v :=
  ⟨same.1, more _ _ same.2⟩

end Known

/-- That known variables have their numbers from the space, and in a strict program values of their types. -/
def World.Typed (strict : Prop) (k : Known) (w : World) : Prop :=
  ∀ (d : Variable) t, k d.number = some t → d.number < w.space.nextNumber ∧ (strict → t.Holds (w.store.read d))

/-- That a context lies within that of a whole program: what may be called by a name in it may be called so
in the program, and is the same function if the program is strict. -/
structure Context.Within (c base : Context) : Prop where
  catalog : c.catalog = base.catalog
  outerVariable : c.outerVariable? = base.outerVariable?
  strict : base.strict → c.strict
  function : ∀ name arity f, c.functionOf? name arity = some f →
    ∃ f', base.functionOf? name arity = some f' ∧ (base.strict → f' = f)

namespace Context.Within

variable {c base : Context}

theorem refl (c : Context) : c.Within c :=
  ⟨rfl, rfl, id, fun _ _ f found => ⟨f, found, fun _ => rfl⟩⟩

theorem enter (within : c.Within base) (vs : List Variable) : (c.enter vs).Within base :=
  ⟨within.catalog, within.outerVariable, within.strict, within.function⟩

theorem extend (within : c.Within base) (vs : List Variable) : (c.extend vs).Within base :=
  ⟨within.catalog, within.outerVariable, within.strict, within.function⟩

theorem withResult (within : c.Within base) (t : Ty) : { c with result := t }.Within base :=
  ⟨within.catalog, within.outerVariable, within.strict, within.function⟩

end Context.Within

/-- That a function of a run does what a checked one says. -/
inductive Realises (base : Context) (g : ScopeId) (bodies : Table Body) (d f : Function) : Prop
  | print (found : bodies.get? d.number = some (.native Native.print)) (result : f.result = .nil)
  | method {c : Context} {m : Method}
      (found : bodies.get? d.number = some (.method (m.params.map Param.name) m.body g))
      (within : c.Within base) (frames : c.frames = base.frames) (admitted : c.AdmitsMethod m f)

/-- That a world may arise in a run of the program with this context, in the global scope `g`. -/
structure Sound (base : Context) (g : ScopeId) (k : Known) (w : World) : Prop where
  catalog : base.catalog = {}
  alone : ∀ name, base.outerVariable? name = none
  typed : w.Typed base.strict k
  global : w.space.Inside k.Matches g g base.frames
  functions : ∀ name arity f, base.functionOf? name arity = some f →
    f.arity = arity ∧ ∃ d, w.space.lookupFunction? g name arity = some d ∧ Realises base g w.bodies d f

/-- That a phrase with this context may run in a scope. -/
structure Placed (base : Context) (g : ScopeId) (k : Known) (c : Context) (scope : ScopeId) (w : World) : Prop where
  within : c.Within base
  inside : w.space.Inside k.Matches g scope c.frames

/-- That a world comes after another in the run of a program: sound, with only some frames changed, and with
nothing forgotten. -/
structure Follows (base : Context) (g : ScopeId) (opened : ScopeId → Prop) (k : Known) (w : World) (k' : Known)
    (w' : World) : Prop where
  keeps : w.Keeps (fun _ _ => True) opened w'
  more : k.Le k'
  sound : Sound base g k' w'

/-- That a run has not stopped for the sake of a name nor, where kinds are checked, of a kind. -/
def Stop.Safe (strict : Prop) : Stop → Prop
  | .fault f => f.Safe strict
  | .outOfFuel => True

/-- That a step taken in a world ends as said, or stops as it may. -/
def Run.Ends {ε σ α : Type} (may : ε → Prop) (w : σ) (post : α → σ → Prop) (x : EStateM ε σ α) : Prop :=
  match x w with
  | .ok a w' => post a w'
  | .error stop _ => may stop

/-- That a step taken in a world ends in one that follows, or stops in a safe way. -/
def Run.Safe {α : Type} (base : Context) (g : ScopeId) (opened : ScopeId → Prop) (k : Known) (w : World)
    (post : α → Known → World → Prop) (x : Run α) : Prop :=
  Ends (Stop.Safe base.strict) w (fun a w' => ∃ k', Follows base g opened k w k' w' ∧ post a k' w') x

variable {base : Context} {g : ScopeId} {opened : ScopeId → Prop} {k k' k'' : Known} {w w' w'' : World}

namespace Follows

theorem refl (sound : Sound base g k w) : Follows base g opened k w k w :=
  ⟨.refl (Store.allows_any w.bodies) opened w, .refl k, sound⟩

theorem trans (first : Follows base g opened k w k' w') (second : Follows base g opened k' w' k'' w'') :
    Follows base g opened k w k'' w'' where
  keeps := first.keeps.trans (Store.allows_any w.bodies) second.keeps
  more := first.more.trans second.more
  sound := second.sound

theorem mono {opened' : ScopeId → Prop} (follows : Follows base g opened k w k' w')
    (wider : ∀ i, opened i → opened' i) : Follows base g opened' k w k' w' :=
  ⟨follows.keeps.mono wider, follows.more, follows.sound⟩

/-- A world stays sound when only frames after the global one change and the values of variables are of the
types that they are known to be of. -/
theorem of_keeps (sound : Sound base g k w) (keeps : w.Keeps (fun _ _ => True) opened w')
    (later : ∀ i, opened i → g < i) (more : k.Le k') (typed : w'.Typed base.strict k') :
    Follows base g opened k w k' w' where
  keeps := keeps
  more := more
  sound := {
    catalog := sound.catalog
    alone := sound.alone
    typed := typed
    global := (sound.global.of_grows keeps.space later).mono fun _ _ same => same.mono more
    functions := by
      intro name arity f found
      obtain ⟨frame, isFrame⟩ := sound.global.exists_frame
      rw [keeps.bodies, keeps.space.lookupFunction?_eq isFrame]
      exact sound.functions name arity f found }

end Follows

/-- A scope keeps its place as long as only later frames change. -/
theorem Placed.follow {c : Context} {scope : ScopeId} (placed : Placed base g k c scope w)
    (follows : Follows base g opened k w k' w') (later : ∀ i, opened i → scope < i) :
    Placed base g k' c scope w' where
  within := placed.within
  inside := (placed.inside.of_grows follows.keeps.space later).mono fun _ _ same => same.mono follows.more

/-- A statement that declares nothing leaves its place as it is. -/
theorem Placed.extend_nil {c : Context} {scope : ScopeId} (placed : Placed base g k c scope w) :
    Placed base g k (c.extend []) scope w := by
  rwa [Context.extend_nil placed.inside]

/-! ## Steps -/

namespace Run

variable {α β : Type} {c : Context} {scope : ScopeId} {post : α → Known → World → Prop}

theorem Ends.bind {ε σ : Type} {may : ε → Prop} {w : σ} {mid : β → σ → Prop} {post : α → σ → Prop} {x : EStateM ε σ β}
    {f : β → EStateM ε σ α} (first : Ends may w mid x) (others : ∀ b w', mid b w' → Ends may w' post (f b)) :
    Ends may w post (x >>= f) := by
  unfold Ends at first ⊢
  cases ran : x w with
  | error stop w' =>
    rw [ran] at first
    rw [Conduct.bind_of_eq_error ran]
    exact first
  | ok b w' =>
    rw [ran] at first
    rw [Conduct.bind_of_eq_ok ran]
    exact others b w' first

theorem Ends.imp {ε σ : Type} {may may' : ε → Prop} {w : σ} {post post' : α → σ → Prop} {x : EStateM ε σ α}
    (ends : Ends may w post x) (stops : ∀ stop, may stop → may' stop) (weaker : ∀ a w', post a w' → post' a w') :
    Ends may' w post' x := by
  unfold Ends at ends ⊢
  cases ran : x w with
  | error stop w' =>
    rw [ran] at ends
    exact stops stop ends
  | ok a w' =>
    rw [ran] at ends
    exact weaker a w' ends

/-- Steps one after the other are safe; the first may change fewer frames. -/
theorem Safe.seq {opened' : ScopeId → Prop} {mid : β → Known → World → Prop} {x : Run β} {f : β → Run α}
    (first : Safe base g opened' k w mid x) (wider : ∀ i, opened' i → opened i)
    (others : ∀ b k' w', Follows base g opened' k w k' w' → mid b k' w' → Safe base g opened k' w' post (f b)) :
    Safe base g opened k w post (x >>= f) := by
  refine Ends.bind first ?_
  rintro b w' ⟨k', follows, holds⟩
  refine Ends.imp (others b k' w' follows holds) (fun _ => id) ?_
  rintro a w'' ⟨k'', follows', holds'⟩
  exact ⟨k'', (follows.mono wider).trans follows', holds'⟩

theorem Safe.bind {mid : β → Known → World → Prop} {x : Run β} {f : β → Run α}
    (first : Safe base g opened k w mid x)
    (others : ∀ b k' w', Follows base g opened k w k' w' → mid b k' w' → Safe base g opened k' w' post (f b)) :
    Safe base g opened k w post (x >>= f) :=
  first.seq (fun _ => id) others

/-- A step that changes no frame may be followed by one that does. -/
theorem Safe.andThen {mid : β → Known → World → Prop} {x : Run β} {f : β → Run α}
    (first : Safe base g (fun _ => False) k w mid x)
    (others : ∀ b k' w', Follows base g (fun _ => False) k w k' w' → mid b k' w' →
      Safe base g opened k' w' post (f b)) :
    Safe base g opened k w post (x >>= f) :=
  first.seq (fun _ => False.elim) others

/-- What is promised of a step may be weakened, with regard to the world that it ends in. -/
theorem Safe.imp {post' : α → Known → World → Prop} {opened' : ScopeId → Prop} {x : Run α}
    (safe : Safe base g opened k w post x) (wider : ∀ i, opened i → opened' i)
    (weaker : ∀ a k' w', Follows base g opened k w k' w' → post a k' w' → post' a k' w') :
    Safe base g opened' k w post' x := by
  refine Ends.imp safe (fun _ => id) ?_
  rintro a w' ⟨k', follows, holds⟩
  exact ⟨k', follows.mono wider, weaker a k' w' follows holds⟩

/-- A step that changes no frame may be taken where some may change. -/
theorem Safe.open {x : Run α} (safe : Safe base g (fun _ => False) k w post x) : Safe base g opened k w post x :=
  safe.imp (fun _ => False.elim) fun _ _ _ _ holds => holds

theorem safe_pure (sound : Sound base g k w) {a : α} (holds : post a k w) :
    Safe base g opened k w post (pure a) :=
  ⟨k, .refl sound, holds⟩

theorem safe_throw {stop : Stop} (safe : stop.Safe base.strict) : Safe base g opened k w post (throw stop) :=
  safe

theorem safe_ofExcept (sound : Sound base g k w) {result : Except Fault α} (gives : ∀ a, result = .ok a → post a k w)
    (fails : ∀ f, result = .error f → f.Safe base.strict) : Safe base g opened k w post (ofExcept result) := by
  cases result with
  | ok a => exact safe_pure sound (gives a rfl)
  | error f => exact safe_throw (fails f rfl)

/-- What runs in a new scope runs in a place inside that of the scope around. -/
theorem safe_child {f : ScopeId → Run α} (sound : Sound base g k w) (placed : Placed base g k c scope w)
    (inside : ∀ inner w', scope < inner → Sound base g k w' → Placed base g k c scope w' →
      Placed base g k (c.enter []) inner w' → Safe base g (· = inner) k w' post (f inner)) :
    Safe base g (fun _ => False) k w post (child scope >>= f) := by
  obtain ⟨space, store, table, methods⟩ := w
  obtain ⟨frame, isFrame⟩ := placed.inside.exists_frame
  let w' : World := ⟨(space.child scope).1, store, table, methods⟩
  have follows : Follows base g (fun _ => False) k ⟨space, store, table, methods⟩ k w' := by
    refine .of_keeps sound ⟨.of_child (.refl _ _), rfl, rfl, trivial⟩ (fun _ => False.elim) (.refl k) ?_
    intro d t known
    rw [Space.nextNumber_child]
    exact sound.typed d t known
  have later := inside space.frames.size w' (Space.frame?_lt isFrame) follows.sound
    (placed.follow follows fun _ => False.elim) ⟨placed.within.enter [], placed.inside.child⟩
  change Ends (Stop.Safe base.strict) w' _ (f (space.child scope).2)
  rw [Space.child_snd]
  refine Ends.imp later (fun _ => id) ?_
  rintro a w'' ⟨k', follows', holds⟩
  exact ⟨k', ⟨⟨.of_child follows'.keeps.space, follows'.keeps.bodies, follows'.keeps.methods, trivial⟩,
    follows'.more, follows'.sound⟩, holds⟩

/-! ## Variables -/

theorem bind_get {α : Type} (f : World → Run α) (w : World) : (get >>= f) w = f w w :=
  rfl

theorem variableOf_eq_ok {name : String} {v : Variable} (found : w.space.lookupVariable? scope name = some v) :
    variableOf scope name w = .ok v w := by
  rw [variableOf, bind_get, found]
  rfl

theorem safe_variableOf (sound : Sound base g k w) (placed : Placed base g k c scope w) {name : String} {v : Variable}
    (found : c.variableOf? name = some v) :
    Safe base g opened k w (fun d k' _ => k'.Matches d v) (variableOf scope name) := by
  have cases' := placed.inside.lookupVariable?_cases (fun d v same => same.1) name
  have inside : Space.pickVariable? c.frames name = some v := by
    rw [Context.variableOf?, placed.within.outerVariable, sound.alone, Option.or_none] at found
    exact found
  rw [inside] at cases'
  obtain ⟨d, isFound, same⟩ := cases'
  rw [Safe, Ends, variableOf_eq_ok isFound]
  exact ⟨k, .refl sound, same⟩

theorem safe_read (sound : Sound base g k w) {d v : Variable} (same : k.Matches d v) :
    Safe base g opened k w (fun x _ _ => base.strict → v.type.Holds x) (read d) :=
  ⟨k, .refl sound, (sound.typed d v.type same.2).2⟩

theorem safe_write (sound : Sound base g k w) {d v : Variable} {x : Value} (same : k.Matches d v)
    (holds : base.strict → v.type.Holds x) :
    Safe base g (fun _ => False) k w (fun _ _ _ => True) (write d x) := by
  obtain ⟨space, store, table, methods⟩ := w
  refine ⟨k, .of_keeps sound ⟨.refl _ _, rfl, rfl, trivial⟩ (fun _ => False.elim) (.refl k) ?_, trivial⟩
  intro e t known
  refine ⟨(sound.typed e t known).1, fun strict => ?_⟩
  rw [Store.read_write]
  split
  next equal =>
    rw [equal, same.2] at known
    cases known
    exact holds strict
  next => exact (sound.typed e t known).2 strict

/-- A new variable, of a name that its scope does not bind yet, is known to be of a type. -/
theorem bind_learns {strict : Prop} {vs : List Variable} {frames : List (List Variable)} {v : Variable} {x : Value}
    (typed : w.Typed strict k) (inside : w.space.Inside k.Matches g scope (vs :: frames))
    (free : ∀ u ∈ vs, u.name ≠ v.name) (holds : strict → v.type.Holds x) :
    ∃ k' w', Run.bind scope v.name x w = .ok () w' ∧ w.Keeps (fun _ _ => True) (· = scope) w' ∧ k.Le k' ∧
      w'.Typed strict k' ∧ w'.space.Inside k'.Matches g scope ((v :: vs) :: frames) := by
  obtain ⟨space, store, table, methods⟩ := w
  have absent : space.holdsVariable scope v.name = false := by
    rw [inside.holdsVariable_eq (fun d v same => same.1), List.any_eq_false]
    intro u mem
    simpa using free u mem
  have new : k space.nextNumber = none := by
    cases known : k space.nextNumber with
    | none => rfl
    | some t => exact absurd (typed ⟨space.nextNumber, "", .any, ""⟩ t known).1 (Nat.lt_irrefl _)
  have more : k.Le (k.learn space.nextNumber v.type) := .learn new
  have isNumber : (space.newVariable v.name .any).2.number = space.nextNumber := rfl
  have keeps := keeping_bind (Store.allows_any table) scope v.name x ⟨space, store, table, methods⟩ rfl
  simp only [Run.bind, absent, Bool.false_eq_true, if_false, last] at keeps
  simp only [Run.bind, absent, Bool.false_eq_true, if_false]
  refine ⟨k.learn space.nextNumber v.type, _, rfl, keeps, more, ?_, ?_⟩
  · intro d t known
    rw [Known.learn] at known
    split at known
    next isNew =>
      cases known
      refine ⟨isNew ▸ Nat.lt_succ_self _, fun strict => ?_⟩
      rw [Store.read_write, isNumber, if_pos isNew]
      exact holds strict
    next isOld =>
      obtain ⟨old, typed⟩ := typed d t known
      refine ⟨Nat.lt_succ_of_lt old, fun strict => ?_⟩
      rw [Store.read_write, isNumber, if_neg isOld]
      exact typed strict
  · have numbered : space.Grows (fun _ => False) (space.newVariable v.name .any).1 :=
      .newVariable space v.name .any none
    have kept := inside.of_grows numbered fun _ => False.elim
    exact (kept.mono fun _ _ same => same.mono more).addVariable ⟨rfl, if_pos isNumber⟩

theorem safe_bind (sound : Sound base g k w) (placed : Placed base g k c scope w) (inner : g < scope) {v : Variable}
    {x : Value} (free : c.Free v.name) (holds : base.strict → v.type.Holds x) :
    Safe base g (· = scope) k w (fun _ k' w' => Placed base g k' (c.extend [v]) scope w')
      (Run.bind scope v.name x) := by
  obtain ⟨within, inside⟩ := placed
  obtain ⟨vs, frames, isFrames⟩ := inside.exists_cons
  rw [isFrames] at inside
  rw [Context.Free, isFrames] at free
  obtain ⟨k', w', bound, keeps, more, typed, inside'⟩ := bind_learns sound.typed inside free holds
  rw [Safe, Ends, bound]
  refine ⟨k', .of_keeps sound keeps (fun i same => same ▸ inner) more typed, within.extend [v], ?_⟩
  rwa [Context.extend, isFrames]

/-- New variables, of different names that their scope does not bind yet, are known to be of their types. -/
theorem safe_bindAll (inner : g < scope) {pairs : List (String × Value)} {vs : List Variable}
    (related : List.Forall₂ (fun p v => p.1 = v.name ∧ (base.strict → v.type.Holds p.2)) pairs vs)
    (distinct : (vs.map Variable.name).Nodup) (free : ∀ v ∈ vs, c.Free v.name) (sound : Sound base g k w)
    (placed : Placed base g k c scope w) :
    Safe base g (· = scope) k w (fun _ k' w' => Placed base g k' (c.extend vs.reverse) scope w')
      (bindAll scope pairs) := by
  induction related generalizing c k w with
  | nil =>
    rw [List.reverse_nil, Context.extend_nil placed.inside]
    exact safe_pure sound placed
  | @cons pair v pairs vs first others ih =>
    obtain ⟨name, x⟩ := pair
    obtain ⟨rfl, holds⟩ := first
    rw [List.map_cons, List.nodup_cons] at distinct
    obtain ⟨isOther, distinct⟩ := distinct
    refine (safe_bind sound placed inner (free v (.head _)) holds).bind fun _ k' w' follows placed' => ?_
    have stillFree : ∀ u ∈ vs, (c.extend [v]).Free u.name := by
      intro u mem
      refine Context.free_extend.mpr ⟨?_, free u (.tail v mem)⟩
      rintro u' (_ | ⟨_, ⟨⟩⟩) same
      exact isOther (same ▸ List.mem_map_of_mem mem)
    rw [List.reverse_cons, ← Context.extend_extend]
    exact ih distinct stillFree follows.sound placed'

/-! ## Functions -/

theorem functionOf_eq_ok {name : String} {arity : Nat} {f : Function}
    (found : w.space.lookupFunction? scope name arity = some f) : functionOf scope name arity w = .ok f w := by
  rw [functionOf, bind_get, found]
  rfl

theorem functionOf_eq_error {name : String} {arity : Nat} (absent : w.space.lookupFunction? scope name arity = none) :
    functionOf scope name arity w = .error (.fault (.unresolved name (some arity))) w := by
  rw [functionOf, bind_get, absent]
  rfl

theorem safe_functionOf (sound : Sound base g k w) (placed : Placed base g k c scope w) {name : String} {arity : Nat}
    {f : Function} (found : c.functionOf? name arity = some f) :
    Safe base g opened k w
      (fun d _ w' => ∃ f', Realises base g w'.bodies d f' ∧ f'.arity = arity ∧ (base.strict → f' = f))
      (functionOf scope name arity) := by
  obtain ⟨f', isFound', same⟩ := placed.within.function name arity f found
  obtain ⟨isArity, d, isFound, realises⟩ := sound.functions name arity f' isFound'
  rw [← placed.inside.under.lookupFunction?_eq] at isFound
  rw [Safe, Ends, functionOf_eq_ok isFound]
  exact ⟨k, .refl sound, f', realises, isArity, same⟩

theorem safe_print (sound : Sound base g k w) (args : List Value) :
    Safe base g (fun _ => False) k w (fun _ _ _ => True) (native Native.print args) := by
  obtain ⟨space, store, table, methods⟩ := w
  cases shown : (Native.nth args 0).display? with
  | some text =>
    have ran : native Native.print args ⟨space, store, table, methods⟩ =
        .ok .nil ⟨space, store.print text, table, methods⟩ := by
      simp only [native, Native.print, shown]
      rfl
    rw [Safe, Ends, ran]
    exact ⟨k, .of_keeps sound ⟨.refl _ _, rfl, rfl, trivial⟩ (fun _ => False.elim) (.refl k) sound.typed, trivial⟩
  | none =>
    have ran : native Native.print args ⟨space, store, table, methods⟩ =
        .error (.fault .unwritableInteger) ⟨space, store, table, methods⟩ := by
      simp only [native, Native.print, shown]
      rfl
    rw [Safe, Ends, ran]
    exact ⟨rfl, fun _ => rfl⟩

end Run

end Primer
