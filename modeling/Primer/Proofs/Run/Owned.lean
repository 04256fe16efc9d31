import Primer.Proofs.Run.Invariant
import Primer.Proofs.Run.Sites

/-!
# States of sited runs

A sited run `Follows` a run if it does the same to the world and gives the same. It may do more than that: what
a step leaves of the state is said beside (`Evolves`), so that steps can be put together.

What lets a sited run follow is an invariant of its states (`Owned`): the scopes of the program, from the
innermost to the global one, hold variables made at the sites that the check knew there, in the same order, and
all code of the program in the world was bound by the check. Then a name finds a variable made at the site in
its slot (`Owned.exists_variable`), and it makes no difference which of the two is looked for
(`Look.byName_faithful`, `Look.bySite_faithful`).
-/

namespace Primer

namespace Sited

variable {α β : Type} {t t' t'' : Sited}

/-! ## Following a step -/

/-- That a sited step ended like a step and left the same world, and in which state if it went through. -/
inductive Ends (Q : α → Sited → Prop) : EStateM.Result Stop World α → EStateM.Result Halt Sited α → Prop
  | ok {a : α} {t : Sited} (holds : Q a t) : Ends Q (.ok a t.world) (.ok a t)
  | error {stop : Stop} {t : Sited} : Ends Q (.error stop t.world) (.error (.stop stop) t)

/-- That a sited step does to the world what a step does and gives the same. -/
def Follows (t : Sited) (y : SitedRun α) (x : Run α) (Q : α → Sited → Prop) : Prop :=
  Ends Q (x t.world) (y t)

variable {P Q : α → Sited → Prop} {R : β → Sited → Prop}

theorem Follows.outcome?_eq {y : SitedRun α} {x : Run α} (follows : Follows t y x Q) :
    outcome? (y t) = some (x t.world) := by
  unfold Follows at follows
  generalize x t.world = ended at follows
  generalize y t = ended' at follows
  cases follows <;> rfl

theorem Follows.mono {y : SitedRun α} {x : Run α} (follows : Follows t y x P) (weaker : ∀ a t', P a t' → Q a t') :
    Follows t y x Q := by
  unfold Follows at follows ⊢
  generalize x t.world = ended at follows
  generalize y t = ended' at follows
  cases follows with
  | ok holds => exact .ok (weaker _ _ holds)
  | error => exact .error

theorem follows_pure {a : α} (holds : Q a t) : Follows t (pure a) (pure a) Q :=
  .ok holds

theorem follows_throw (stop : Stop) : Follows t (lift (throw stop)) (throw stop) Q :=
  .error

theorem follows_lift {x : Run α} (holds : ∀ a w, x t.world = .ok a w → Q a { t with world := w }) :
    Follows t (lift x) x Q := by
  unfold Follows lift
  cases ran : x t.world with
  | ok a w => exact .ok (t := { t with world := w }) (holds a w ran)
  | error stop w => exact .error (t := { t with world := w })

theorem Follows.bind {y : SitedRun α} {x : Run α} {g : α → SitedRun β} {f : α → Run β} (first : Follows t y x Q)
    (others : ∀ a t', Q a t' → Follows t' (g a) (f a) R) : Follows t (y >>= g) (x >>= f) R := by
  change Ends R (EStateM.bind x f t.world) (EStateM.bind y g t)
  unfold EStateM.bind
  unfold Follows at first
  generalize x t.world = ended at first
  generalize y t = ended' at first
  cases first with
  | ok holds => exact others _ _ holds
  | error => exact .error

theorem follows_get {g : World → SitedRun α} {f : World → Run α} (follows : Follows t (g t.world) (f t.world) Q) :
    Follows t (lift get >>= g) (get >>= f) Q :=
  follows

/-- A step that only reads the state need not follow anything. -/
theorem Follows.of_read {y : SitedRun α} {a : α} {g : α → SitedRun β} {x : Run β} (read : y t = .ok a t)
    (follows : Follows t (g a) x R) : Follows t (y >>= g) x R := by
  change Ends R (x t.world) (EStateM.bind y g t)
  rw [EStateM.bind, read]
  exact follows

/-! ## What becomes of the state -/

/-- That a variable of the world was made at a site. -/
def Made (t : Sited) (v site : Variable) : Prop :=
  t.sites v = some site ∧ v.number < t.world.space.nextNumber

/-- That variables have the names of their sites. -/
def Named (t : Sited) : Prop :=
  ∀ v site, t.sites v = some site → v.name = site.name

/-- What becomes of a state when code runs: the world is kept but for open frames, and so are the sites of the
variables that there were. -/
structure Evolves (opened : ScopeId → Prop) (t t' : Sited) : Prop where
  world : t.world.Keeps (fun _ _ => True) opened t'.world
  sites : ∀ v, v.number < t.world.space.nextNumber → t'.sites v = t.sites v
  named : t.Named → t'.Named
  owners : t'.owners = t.owners

namespace Evolves

variable {opened : ScopeId → Prop}

theorem refl (opened : ScopeId → Prop) (t : Sited) : Evolves opened t t :=
  ⟨⟨.refl _ _, rfl, rfl, trivial⟩, fun _ _ => rfl, id, rfl⟩

theorem trans (first : Evolves opened t t') (second : Evolves opened t' t'') : Evolves opened t t'' where
  world := first.world.trans (Store.allows_any t.world.bodies) second.world
  sites v old := (second.sites v (Nat.lt_of_lt_of_le old first.world.space.number)).trans (first.sites v old)
  named := second.named ∘ first.named
  owners := second.owners.trans first.owners

theorem mono {opened' : ScopeId → Prop} (evolves : Evolves opened t t') (wider : ∀ i, opened i → opened' i) :
    Evolves opened' t t' :=
  ⟨evolves.world.mono wider, evolves.sites, evolves.named, evolves.owners⟩

/-- A step that makes no variable of the program. -/
theorem of_keeps {w : World} (keeps : t.world.Keeps (fun _ _ => True) opened w) :
    Evolves opened t { t with world := w } :=
  ⟨keeps, fun _ _ => rfl, id, rfl⟩

/-- What is open only in a new scope is open to nobody. -/
theorem of_child {scope : ScopeId}
    (later : Evolves (· = t.world.space.frames.size) { t with world.space := (t.world.space.child scope).1 } t') :
    Evolves (fun _ => False) t t' where
  world := ⟨.of_child later.world.space, later.world.bodies, later.world.methods, trivial⟩
  sites v old := later.sites v (Nat.lt_of_lt_of_eq old (t.world.space.nextNumber_child scope).symm)
  named := later.named
  owners := later.owners

theorem made {v site : Variable} (evolves : Evolves opened t t') (made : t.Made v site) : t'.Made v site :=
  ⟨(evolves.sites v made.2).trans made.1, Nat.lt_of_lt_of_le made.2 evolves.world.space.number⟩

/-- Scopes hold variables made at the sites that they were made at, when only later frames are open. -/
theorem inside {g scope : ScopeId} {frames : List (List Variable)} (evolves : Evolves opened t t')
    (inside : t.world.space.Inside t.Made g scope frames) (later : ∀ i, opened i → scope < i) :
    t'.world.space.Inside t'.Made g scope frames :=
  (inside.of_grows evolves.world.space later).mono fun _ _ => evolves.made

end Evolves

theorem Evolves.open {opened : ScopeId → Prop} (evolves : Evolves (fun _ => False) t t') : Evolves opened t t' :=
  evolves.mono fun _ => False.elim

/-- That a sited step follows a step and keeps the state but for open frames. -/
abbrev FollowsIn (opened : ScopeId → Prop) (t : Sited) (y : SitedRun α) (x : Run α) : Prop :=
  Follows t y x fun _ t' => t.Evolves opened t'

section

variable {opened : ScopeId → Prop}

theorem followsIn_pure (a : α) : FollowsIn opened t (pure a) (pure a) :=
  follows_pure (.refl opened t)

theorem FollowsIn.bind {y : SitedRun α} {x : Run α} {g : α → SitedRun β} {f : α → Run β}
    (first : FollowsIn opened t y x) (others : ∀ a t', t.Evolves opened t' → FollowsIn opened t' (g a) (f a)) :
    FollowsIn opened t (y >>= g) (x >>= f) :=
  Follows.bind first fun a t₁ evolves => (others a t₁ evolves).mono fun _ _ evolves' => evolves.trans evolves'

theorem followsIn_lift {x : Run α}
    (keeping : Store.Allows (fun _ _ => True) t.world.bodies →
      Run.Keeping (fun _ _ => True) t.world.bodies opened x) : FollowsIn opened t (lift x) x := by
  refine follows_lift fun a w ran => .of_keeps ?_
  have keeps := keeping (Store.allows_any _) t.world rfl
  rwa [ran] at keeps

theorem follows_child {scope : ScopeId} {g : ScopeId → SitedRun α} {f : ScopeId → Run α}
    (inside : Follows { t with world.space := (t.world.space.child scope).1 } (g t.world.space.frames.size)
      (f t.world.space.frames.size) Q) :
    Follows t (lift (Run.child scope) >>= g) (Run.child scope >>= f) Q := by
  rw [← Space.child_snd t.world.space scope] at inside
  exact inside

/-- What is followed in a new scope may open it. -/
theorem followsIn_child {scope : ScopeId} {g : ScopeId → SitedRun α} {f : ScopeId → Run α}
    (inside : FollowsIn (· = t.world.space.frames.size) { t with world.space := (t.world.space.child scope).1 }
      (g t.world.space.frames.size) (f t.world.space.frames.size)) :
    FollowsIn (fun _ => False) t (lift (Run.child scope) >>= g) (Run.child scope >>= f) :=
  follows_child (inside.mono fun _ _ => Evolves.of_child)

end

/-! ## Making variables -/

theorem space_of_bind {scope : ScopeId} {name : String} {x : Value} {w w' : World}
    (ran : Run.bind scope name x w = .ok () w') :
    w'.space = (w.space.newVariable name .any).1.addVariable scope (w.space.newVariable name .any).2 := by
  obtain ⟨space, store, bodies, methods⟩ := w
  dsimp only [Run.bind] at ran
  split at ran
  next => cases ran
  next =>
    cases ran
    rfl

/-- A variable is made at the site it is bound with, and is from then on the first in its scope. -/
theorem bind_follows {scope : ScopeId} {name : String} {x : Value} {site : Option Variable}
    (named : ∀ v ∈ site, v.name = name) :
    Follows t (bind scope name x site) (Run.bind scope name x) fun _ t' => t.Evolves (· = scope) t' ∧
      ∀ g, ∀ v ∈ site, ∀ vs frames, t.world.space.Inside t.Made g scope (vs :: frames) →
        t'.world.space.Inside t'.Made g scope ((v :: vs) :: frames) := by
  let made := (t.world.space.newVariable name .any).2
  let sites : Variable → Option Variable := fun v => if v = made then site else t.sites v
  refine follows_lift (t := { t with sites }) fun _ w ran => ?_
  have keeps := Run.keeping_bind (Store.allows_any _) scope name x t.world rfl
  rw [ran] at keeps
  have evolves : t.Evolves (· = scope) { t with sites, world := w } := by
    refine ⟨keeps, fun v old => if_neg ?_, fun named' v u isSite => ?_, rfl⟩
    · rintro rfl
      exact Nat.lt_irrefl _ old
    · by_cases same : v = made
      · have isNew : u ∈ site := (if_pos same).symm.trans isSite
        rw [same, named u isNew]
        rfl
      · exact named' v u ((if_neg same).symm.trans isSite)
  refine ⟨evolves, fun g v isSite vs frames inside => ?_⟩
  have numbered : t.world.space.Grows (fun _ => False) (t.world.space.newVariable name .any).1 :=
    .newVariable _ name .any none
  have kept := (inside.mono fun _ _ => evolves.made).of_grows numbered fun _ => False.elim
  have new : Made { t with sites, world := w } made v := by
    refine ⟨(if_pos rfl).trans isSite, ?_⟩
    rw [space_of_bind ran]
    exact Nat.lt_succ_self _
  change w.space.Inside _ g scope _
  rw [space_of_bind ran]
  exact kept.addVariable new

/-- Parameters are made at their sites one by one, and then stand in their scope in the reverse order. -/
theorem bindAll_follows {scope : ScopeId} (pairs : List (String × Value)) (sites : List Variable)
    (named : sites = [] ∨ sites.map Variable.name = pairs.map Prod.fst) :
    Follows t (bindAll scope pairs sites) (Run.bindAll scope pairs) fun _ t' => t.Evolves (· = scope) t' ∧
      ∀ g vs frames, sites.length = pairs.length → t.world.space.Inside t.Made g scope (vs :: frames) →
        t'.world.space.Inside t'.Made g scope ((sites.reverse ++ vs) :: frames) := by
  induction pairs generalizing t sites with
  | nil =>
    refine follows_pure ⟨.refl _ _, fun g vs frames same inside => ?_⟩
    obtain rfl := List.eq_nil_of_length_eq_zero same
    exact inside
  | cons pair pairs ih =>
    obtain ⟨name, x⟩ := pair
    cases sites with
    | nil =>
      refine (bind_follows (by simp)).bind fun _ t₁ ⟨first, _⟩ => ?_
      refine (ih [] (.inl rfl)).mono fun _ t₂ ⟨second, _⟩ => ⟨first.trans second, fun _ _ _ same => ?_⟩
      cases same
    | cons site sites =>
      obtain ⟨isName, areNames⟩ := List.cons.inj (named.resolve_left (List.cons_ne_nil _ _))
      have namedFirst : ∀ v ∈ (site :: sites).head?, v.name = name := by
        rintro v ⟨⟩
        exact isName
      refine (bind_follows namedFirst).bind fun _ t₁ ⟨first, inside₁⟩ => ?_
      refine (ih sites (.inr areNames)).mono fun _ t₂ ⟨second, inside₂⟩ => ?_
      refine ⟨first.trans second, fun g vs frames same inside => ?_⟩
      rw [List.reverse_cons, List.append_assoc]
      exact inside₂ g (site :: vs) frames (Nat.succ.inj same) (inside₁ g site rfl vs frames inside)

end Sited

/-! ## Looking up -/

/-- If the first on the way that has a property also has a narrower one, then it is the first that has that. -/
theorem Space.findUp_find?_of_imp {s : Space} {p q : Variable → Bool} (narrower : ∀ v, q v → p v) {scope : ScopeId}
    {v : Variable} (found : s.findUp (fun f => f.vars.find? p) scope = some v) (holds : q v) :
    s.findUp (fun f => f.vars.find? q) scope = some v := by
  induction scope using Nat.strongRecOn with
  | ind scope ih =>
    rw [findUp_eq] at found ⊢
    obtain ⟨f, isFrame, found⟩ := Option.bind_eq_some_iff.mp found
    rw [isFrame, Option.bind_some]
    rcases Option.or_eq_some_iff.mp found with here | ⟨absent, around⟩
    · obtain ⟨-, before, after, split, others⟩ := List.find?_eq_some_iff_append.mp here
      have first : f.vars.find? q = some v := by
        refine List.find?_eq_some_iff_append.mpr ⟨holds, before, after, split, fun u mem => ?_⟩
        have other := others u mem
        simp only [Bool.not_eq_true'] at other ⊢
        exact Bool.eq_false_iff.mpr fun isQ => Bool.eq_false_iff.mp other (narrower u isQ)
      rw [first]
      rfl
    · obtain ⟨p, isParent, around⟩ := Option.bind_eq_some_iff.mp around
      have none : f.vars.find? q = none := by
        rw [List.find?_eq_none] at absent ⊢
        exact fun u mem isQ => absent u mem (narrower u isQ)
      rw [none, isParent, Option.none_or, Option.bind_some]
      exact ih p (s.parent_lt scope f p isFrame isParent) around

/-- That a way to look up finds what is found by name, if that was made at the site in the slot. -/
def Look.Faithful (look : Look) : Prop :=
  ∀ (t : Sited) (scope : ScopeId) (name : String) (v site : Variable), t.Named →
    t.world.space.lookupVariable? scope name = some v → t.sites v = some site →
    look scope name (some site) t = .ok v t

namespace Look

theorem bind_get {α : Type} (g : Sited → SitedRun α) (t : Sited) : (get >>= g) t = g t t :=
  rfl

theorem byName_faithful : byName.Faithful := by
  intro t scope name v site _ found made
  have looked : Sited.lift (Run.variableOf scope name) t = .ok v t := by
    rw [Sited.lift, Run.variableOf_eq_ok found]
  have same : (some site).isSome ∧ t.sites v = some site := ⟨rfl, made⟩
  change EStateM.bind _ _ t = _
  rw [EStateM.bind, looked]
  dsimp only
  rw [bind_get, if_pos same]
  rfl

/-- A variable made at a site has the name of the site, so the nearest of that name is the nearest made there. -/
theorem bySite_faithful : bySite.Faithful := by
  intro t scope name v site named found made
  have isNamed : v.name = name := by
    obtain ⟨i, frame, -, -, picked⟩ := Space.exists_frame_of_findUp found
    simpa using List.find?_some picked
  have looked : t.lookupSite? scope site = some v := by
    refine Space.findUp_find?_of_imp (fun u isMade => ?_) found (by simpa using made)
    rw [beq_iff_eq] at isMade ⊢
    rw [named u site isMade, ← named v site made, isNamed]
  rw [bySite, bind_get, Option.bind_some, looked]
  rfl

end Look

namespace Sited

section

variable {t t' : Sited} {g scope : ScopeId} {outer? : String → Option Variable} {fields : List Variable}
  {frames : List (List Variable)} {opened : ScopeId → Prop} {mine : Bool}

/-! ## The invariant -/

/-- That a method of the program was bound by the check: it was settled with a function, and its body with the
parameters of that function and the fields. -/
def BoundBody (outer? : String → Option Variable) (fields : List Variable) (owner : Option Function)
    (params : List String) (body : List Stmt) : Prop :=
  ∃ f, owner = some f ∧ f.params.length = params.length ∧
    Stmt.BoundAll outer? (f.bodyNumber params) [(f.paramVariables params).reverse, fields] body

/-- What holds of the state of a sited run, given the global scope of the program, what names mean around it,
and the variables of its fields. -/
structure Owned (g : ScopeId) (outer? : String → Option Variable) (fields : List Variable) (t : Sited) : Prop where
  named : t.Named
  global : t.world.space.Inside t.Made g g [fields]
  around : ∀ name, ((t.world.space.parent? g).bind fun p => t.world.space.lookupVariable? p name) = outer? name
  outer : ∀ name v, outer? name = some v → t.Made v v
  bodies : ∀ n params body, t.world.bodies.get? n = some (.method params body g) →
    BoundBody outer? fields (t.owners n) params body
  functions : ∀ i frame, t.world.space.frame? i = some frame → ∀ d ∈ frame.funs,
    d.number < t.world.space.nextNumber ∧ ∀ f, t.owners d.number = some f → d.arity = f.params.length
  methods : ∀ m ∈ t.world.methods, m.2.number < t.world.space.nextNumber ∧ t.owners m.2.number = none

namespace Owned

/-- Code keeps what is known of functions and of what lies around the program. -/
theorem move {fields' : List Variable} (owned : Owned g outer? fields t) (evolves : t.Evolves opened t')
    (within : ∀ i, opened i → g ≤ i) (global : t'.world.space.Inside t'.Made g g [fields'])
    (bodies : ∀ n params body, t.world.bodies.get? n = some (.method params body g) →
      BoundBody outer? fields' (t.owners n) params body) : Owned g outer? fields' t' := by
  have grows := evolves.world.space
  obtain ⟨frame, found⟩ := owned.global.exists_frame
  obtain ⟨frame', found', parent, -⟩ := grows.exists_frame found
  refine ⟨evolves.named owned.named, global, fun name => ?_, fun name v isOuter => ?_, fun n params body isBody => ?_,
    fun i frame isFrame d mem => ?_, fun m mem => ?_⟩
  · refine (Space.around_congr found found' parent (fun i lt => ?_) _).trans (owned.around name)
    exact grows.frame?_eq_of_lt within found lt
  · exact evolves.made (owned.outer name v isOuter)
  · rw [evolves.world.bodies] at isBody
    rw [evolves.owners]
    exact bodies n params body isBody
  · rw [evolves.owners]
    cases old : t.world.space.frame? i with
    | none =>
      rw [grows.fresh i frame isFrame old] at mem
      cases mem
    | some before =>
      obtain ⟨after, isAfter, -, funs⟩ := grows.exists_frame old
      rw [isFrame] at isAfter
      cases isAfter
      rw [funs] at mem
      obtain ⟨isOld, arity⟩ := owned.functions i before old d mem
      exact ⟨Nat.lt_of_lt_of_le isOld grows.number, arity⟩
  · rw [evolves.world.methods] at mem
    rw [evolves.owners]
    obtain ⟨isOld, none⟩ := owned.methods m mem
    exact ⟨Nat.lt_of_lt_of_le isOld grows.number, none⟩

theorem evolve (owned : Owned g outer? fields t) (evolves : t.Evolves opened t') (later : ∀ i, opened i → g < i) :
    Owned g outer? fields t' :=
  owned.move evolves (fun i isOpen => Nat.le_of_lt (later i isOpen)) (evolves.inside owned.global later) owned.bodies

/-- What a name means to the check is the site of what it means to the run. -/
theorem exists_variable (owned : Owned g outer? fields t) (inside : t.world.space.Inside t.Made g scope frames)
    {name : String} {site : Variable} (meant : Variable.meant outer? frames name = some site) :
    ∃ v, t.world.space.lookupVariable? scope name = some v ∧ t.sites v = some site := by
  have found := inside.lookupVariable?_cases (fun d v made => owned.named d v made.1) name
  unfold Variable.meant at meant
  cases picked : Space.pickVariable? frames name with
  | some v =>
    rw [picked] at found meant
    cases meant
    obtain ⟨d, isFound, isMade⟩ := found
    exact ⟨d, isFound, isMade.1⟩
  | none =>
    rw [picked] at found meant
    rw [Option.none_or] at meant
    exact ⟨site, found.trans ((owned.around name).trans meant), (owned.outer name site meant).1⟩

/-- The global scope is there, so new ones come later. -/
theorem lt_size (owned : Owned g outer? fields t) : g < t.world.space.frames.size := by
  obtain ⟨frame, found⟩ := owned.global.exists_frame
  exact Space.frame?_lt found

/-- A function that is found has as many parameters as it is called with, also to the check. -/
theorem arity_of_lookupFunction? (owned : Owned g outer? fields t) {name : String} {arity : Nat} {d f : Function}
    (found : t.world.space.lookupFunction? scope name arity = some d) (owner : t.owners d.number = some f) :
    arity = f.params.length := by
  obtain ⟨-, isArity⟩ := Space.key_of_lookupFunction? found
  obtain ⟨i, frame, isFrame, -, picked⟩ := Space.exists_frame_of_findUp found
  obtain ⟨-, same⟩ := owned.functions i frame isFrame d (List.mem_of_find?_eq_some picked)
  rw [← isArity, same f owner]

end Owned

/-- That code stands in a scope where the invariant holds; if it is code of the program, then the scopes from
there to the global one hold variables made at these sites. -/
structure Stands (g : ScopeId) (outer? : String → Option Variable) (fields : List Variable) (mine : Bool)
    (scope : ScopeId) (frames : List (List Variable)) (t : Sited) : Prop where
  owned : Owned g outer? fields t
  inside : mine → t.world.space.Inside t.Made g scope frames

namespace Stands

/-- Expressions, and what runs in scopes of its own, leave code standing. -/
theorem evolve (stands : Stands g outer? fields mine scope frames t) (evolves : t.Evolves (fun _ => False) t') :
    Stands g outer? fields mine scope frames t' :=
  ⟨stands.owned.evolve evolves fun _ => False.elim,
    fun isMine => evolves.inside (stands.inside isMine) fun _ => False.elim⟩

theorem child (stands : Stands g outer? fields mine scope frames t) :
    Stands g outer? fields mine t.world.space.frames.size ([] :: frames)
      { t with world.space := (t.world.space.child scope).1 } := by
  have evolves : t.Evolves (fun _ => False) { t with world.space := (t.world.space.child scope).1 } :=
    .of_child (.refl _ _)
  refine ⟨stands.owned.evolve evolves fun _ => False.elim, fun isMine => ?_⟩
  exact (stands.inside isMine).child.mono fun _ _ => evolves.made

/-- A statement that declares nothing leaves the rest standing. -/
theorem keep {s : Stmt} (nothing : s.bindings = []) (stands : Stands g outer? fields mine scope frames t)
    (evolves : t.Evolves (fun _ => False) t') :
    t.Evolves (· = scope) t' ∧
      Stands g outer? fields mine scope ((s.bindings ++ frames.headD []) :: frames.tail) t' := by
  have kept := stands.evolve evolves
  refine ⟨evolves.open, kept.owned, fun isMine => ?_⟩
  have inside := kept.inside isMine
  obtain ⟨vs, rest, shape⟩ := inside.exists_cons
  rw [shape] at inside
  rw [nothing, shape]
  exact inside

end Stands

end

end Sited

end Primer
