import Primer.Proofs.Check.Settled
import Primer.Proofs.Run.Trace

/-!
# What traces tell of calls

A traced run goes through code of a program and through code of others, such as a function of the scope
around it that was declared from elsewhere. Of calls in others' code nothing is asked. A call in code of the
program must find a function that stands to the one in its slot as `Linked` says.

**The laws** are those of the seven mutually recursive functions, `evaluate_tells` to `whileLoop_tells`: in a
linked world, no matter which code is run, every event is as told by the link.
-/

namespace Primer

/-- What becomes of a world when any code runs in it. -/
abbrev World.Evolves (w w' : World) : Prop :=
  w.Keeps (fun _ _ => True) (fun _ => True) w'

namespace World.Evolves

variable {w w' w'' : World}

theorem refl (w : World) : w.Evolves w :=
  ⟨.refl _ _, rfl, rfl, trivial⟩

theorem trans (first : w.Evolves w') (second : w'.Evolves w'') : w.Evolves w'' :=
  ⟨first.space.trans second.space, second.bodies.trans first.bodies, second.methods.trans first.methods, trivial⟩

theorem child (w : World) (scope : ScopeId) : w.Evolves { w with space := (w.space.child scope).1 } :=
  ⟨(Space.Grows.of_child (.refl _ _)).mono fun _ => False.elim, rfl, rfl, trivial⟩

end World.Evolves

namespace TracedRun

variable {α β : Type} {P : Event → Prop} {t : Traced}

/-- That a step tells of such events only, and does to the world what code does. -/
structure Tells (P : Event → Prop) (t : Traced) (y : TracedRun α) : Prop where
  evolves : t.world.Evolves (last (y t)).world
  events : ∃ new, (last (y t)).events = new ++ t.events ∧ ∀ e ∈ new, P e

theorem tells_pure (a : α) : Tells P t (pure a) :=
  ⟨.refl _, [], rfl, List.forall_mem_nil _⟩

theorem tells_lift {x : Run α}
    (keeping : Store.Allows (fun _ _ => True) t.world.bodies →
      Run.Keeping (fun _ _ => True) t.world.bodies (fun _ => True) x) : Tells P t (lift x) := by
  have evolves : t.world.Evolves (Run.last (x t.world)) := keeping (Store.allows_any _) t.world rfl
  have same : last (lift x t) = { t with world := Run.last (x t.world) } := by
    unfold lift
    cases x t.world <;> rfl
  exact ⟨same.symm ▸ evolves, [], same.symm ▸ rfl, List.forall_mem_nil _⟩

theorem tells_throw (stop : Stop) : Tells P t (lift (throw stop : Run α)) :=
  tells_lift (Run.keeping_throw · stop)

theorem tells_bind (scope : ScopeId) (name : String) (x : Value) : Tells P t (lift (Run.bind scope name x)) :=
  tells_lift fun any => (Run.keeping_bind any scope name x).mono fun _ _ => trivial

theorem tells_bindAll (scope : ScopeId) (pairs : List (String × Value)) :
    Tells P t (lift (Run.bindAll scope pairs)) :=
  tells_lift fun any => (Run.keeping_bindAll any scope pairs).mono fun _ _ => trivial

theorem tells_tell {e : World → Event} (told : P (e t.world)) : Tells P t (tell e) := by
  refine ⟨.refl _, [e t.world], rfl, fun e' mem => ?_⟩
  cases List.mem_singleton.mp mem
  exact told

/-- Events come one after the other, and what comes later may use that the world only evolved. -/
theorem Tells.bind {y : TracedRun α} {g : α → TracedRun β} (first : Tells P t y)
    (others : ∀ a t', y t = .ok a t' → t.world.Evolves t'.world → Tells P t' (g a)) : Tells P t (y >>= g) := by
  obtain ⟨evolves, new, events, told⟩ := first
  cases ran : y t with
  | error stop t' =>
    have ended := Conduct.bind_of_eq_error ran g
    rw [ran] at evolves events
    exact ⟨ended.symm ▸ evolves, new, ended.symm ▸ events, told⟩
  | ok a t' =>
    have ended := Conduct.bind_of_eq_ok ran g
    rw [ran] at evolves events
    obtain ⟨evolves', new', events', told'⟩ := others a t' ran evolves
    refine ⟨ended.symm ▸ evolves.trans evolves', new' ++ new, ?_, ?_⟩
    · rw [ended, events', List.append_assoc]
      exact congrArg _ events
    · exact List.forall_mem_append.mpr ⟨told', told⟩

theorem tells_child {scope : ScopeId} {g : ScopeId → TracedRun α}
    (inside : Tells P { t with world.space := (t.world.space.child scope).1 } (g t.world.space.frames.size)) :
    Tells P t (lift (Run.child scope) >>= g) := by
  have ended : (lift (Run.child scope) >>= g) t =
      g t.world.space.frames.size { t with world.space := (t.world.space.child scope).1 } := by
    rw [← Space.child_snd t.world.space scope]
    rfl
  obtain ⟨evolves, events⟩ := inside
  exact ⟨ended.symm ▸ (World.Evolves.child t.world scope).trans evolves, ended.symm ▸ events⟩

/-- A step that ends well consists of two that do. -/
theorem bind_eq_ok {y : TracedRun α} {g : α → TracedRun β} {b : β} {t' : Traced} (ran : (y >>= g) t = .ok b t') :
    ∃ a t₁, y t = .ok a t₁ ∧ g a t₁ = .ok b t' := by
  cases first : y t with
  | error stop t₁ =>
    rw [Conduct.bind_of_eq_error first] at ran
    cases ran
  | ok a t₁ =>
    rw [Conduct.bind_of_eq_ok first] at ran
    exact ⟨a, t₁, rfl, ran⟩

end TracedRun

/-! ## Linked worlds -/

section

variable {own home : Home} {meant : Meaning → Prop} {link : String → Nat → Function → Function → Prop} {w w' : World}
  {scope : ScopeId}

/-- That names, by each of the meanings that the check may have gone by, are linked to functions of a world,
and that all code of a program in it was settled by such a meaning. -/
structure Linked (own : Home) (meant : Meaning → Prop) (link : String → Nat → Function → Function → Prop)
    (w : World) : Prop where
  global : ∃ frame, w.space.frame? own.program = some frame
  calls : ∀ means, meant means → ∀ name arity f, means name arity = some f →
    ∃ d, w.space.lookupFunction? own.program name arity = some d ∧ link name arity f d
  bodies : ∀ n params body, w.bodies.get? n = some (.method params body own.program) →
    own = .method own.program ∧ ∃ means, meant means ∧ Stmt.SettledAll means body

theorem Linked.evolve (linked : Linked own meant link w) (evolves : w.Evolves w') : Linked own meant link w' := by
  obtain ⟨⟨frame, found⟩, calls, bodies⟩ := linked
  obtain ⟨frame', found', -⟩ := evolves.space.exists_frame found
  refine ⟨⟨frame', found'⟩, fun means isMeant name arity f isFound => ?_, fun n params body isBody => ?_⟩
  · rw [evolves.space.lookupFunction?_eq found]
    exact calls means isMeant name arity f isFound
  · rw [evolves.bodies] at isBody
    exact bodies n params body isBody

/-- That a phrase stands in a linked world, and, if it is one of the program, lies in one of its scopes and was
settled by one of the meanings. -/
structure Stands (own : Home) (meant : Meaning → Prop) (link : String → Nat → Function → Function → Prop)
    (home : Home) (scope : ScopeId) (w : World) (settled : Meaning → Prop) : Prop where
  linked : Linked own meant link w
  mine : home.program = own.program →
    home = own ∧ w.space.Under own.program scope ∧ ∃ means, meant means ∧ settled means

namespace Stands

variable {settled settled' : Meaning → Prop}

theorem part (stands : Stands own meant link home scope w settled) (sub : ∀ means, settled means → settled' means) :
    Stands own meant link home scope w settled' := by
  refine ⟨stands.linked, fun same => ?_⟩
  obtain ⟨isOwn, under, means, isMeant, whole⟩ := stands.mine same
  exact ⟨isOwn, under, means, isMeant, sub means whole⟩

theorem evolve (stands : Stands own meant link home scope w settled) (evolves : w.Evolves w') :
    Stands own meant link home scope w' settled := by
  refine ⟨stands.linked.evolve evolves, fun same => ?_⟩
  obtain ⟨isOwn, under, settledBy⟩ := stands.mine same
  exact ⟨isOwn, under.of_grows evolves.space, settledBy⟩

theorem child (stands : Stands own meant link home scope w settled) :
    Stands own meant link home w.space.frames.size { w with space := (w.space.child scope).1 } settled := by
  refine ⟨stands.linked.evolve (.child w scope), fun same => ?_⟩
  obtain ⟨isOwn, under, settledBy⟩ := stands.mine same
  exact ⟨isOwn, under.child, settledBy⟩

end Stands

/-- What the link asks of an event: that a call of the program found a function linked to the one in its
slot. -/
def Told (own : Home) (link : String → Nat → Function → Function → Prop) : Event → Prop
  | .declared _ _ => True
  | .called home name arity callee started =>
    home.program = own.program → home = own ∧ ∃ f d, callee = some f ∧ started = some d ∧ link name arity f d

end

namespace Trace

open Run
open TracedRun (lift Tells tells_pure tells_throw tells_lift tells_bind tells_bindAll tells_tell tells_child)

/-- There are as many values as expressions. -/
theorem length_of_evaluateAll {fuel calls : Nat} {home : Home} {scope : ScopeId} {es : List Expr} {xs : List Value}
    {t t' : Traced} (ran : conduct.evaluateAll fuel calls home scope es t = .ok xs t') : xs.length = es.length := by
  induction es generalizing fuel t xs with
  | nil =>
    cases fuel with
    | zero =>
      unfold Conduct.evaluateAll at ran
      cases ran
    | succ fuel =>
      unfold Conduct.evaluateAll at ran
      cases ran
      rfl
  | cons e es ih =>
    cases fuel with
    | zero =>
      unfold Conduct.evaluateAll at ran
      cases ran
    | succ fuel =>
      unfold Conduct.evaluateAll at ran
      obtain ⟨x, t₁, -, ran⟩ := TracedRun.bind_eq_ok ran
      obtain ⟨xs, t₂, others, ran⟩ := TracedRun.bind_eq_ok ran
      cases ran
      rw [List.length_cons, List.length_cons, ih others]

section

variable {own : Home} {meant : Meaning → Prop} {link : String → Nat → Function → Function → Prop}

mutual
theorem evaluate_tells (fuel calls : Nat) {t : Traced} {home : Home} {scope : ScopeId} {e : Expr}
    (stands : Stands own meant link home scope t.world fun means => e.Settled means) :
    Tells (Told own link) t (conduct.evaluate fuel calls home scope e) := by
  cases fuel with
  | zero =>
    unfold Conduct.evaluate
    exact tells_throw _
  | succ fuel =>
    unfold Conduct.evaluate
    cases e with
    | literal => exact tells_pure _
    | group inner => exact evaluate_tells fuel calls stands
    | binary op left right =>
      have first := evaluate_tells fuel calls (stands.part fun _ settled => settled.1)
      have second : ∀ t', t.world.Evolves t'.world → Tells (Told own link) t' (conduct.evaluate fuel calls home scope right) :=
        fun t' evolves => evaluate_tells fuel calls ((stands.part fun _ settled => settled.2).evolve evolves)
      dsimp only
      cases op.decisive? with
      | some decisive =>
        refine first.bind fun l t₁ _ evolves₁ => ?_
        refine (tells_lift (keeping_ofExcept · _)).bind fun l t₂ _ evolves₂ => ?_
        by_cases same : l = decisive
        · rw [if_pos same]
          exact tells_pure _
        · rw [if_neg same]
          refine (second t₂ (evolves₁.trans evolves₂)).bind fun r t₃ _ _ => ?_
          exact (tells_lift (keeping_ofExcept · _)).bind fun _ _ _ _ => tells_pure _
      | none =>
        refine first.bind fun l t₁ _ evolves => (second t₁ evolves).bind fun r t₂ _ _ => ?_
        exact tells_lift (keeping_ofExcept · _)
    | ref name =>
      refine (tells_lift (keeping_variableOf · scope name)).bind fun v t₁ _ _ => ?_
      exact tells_lift (keeping_read · v)
    | field receiver name =>
      have object : Stands own meant link home scope t.world fun means => receiver.Settled means := stands
      refine (evaluate_tells fuel calls object).bind fun r t₁ _ _ => ?_
      refine (tells_lift (keeping_fieldOf · r name)).bind fun v t₂ _ _ => ?_
      exact tells_lift (keeping_read · v)
    | call name args offset callee =>
      have given := evaluateAll_tells fuel calls (stands.part fun _ settled => settled.1)
      refine given.bind fun xs t₁ ran evolves₁ => ?_
      have stands₁ := stands.evolve evolves₁
      have looked : Tells (Told own link) t₁ (conduct.functionOf home scope name xs.length callee) := by
        refine (tells_tell ?_).bind fun _ _ _ _ => tells_lift (keeping_functionOf · scope name xs.length)
        intro same
        obtain ⟨isOwn, under, means, isMeant, -, f, rfl, found⟩ := stands₁.mine same
        obtain ⟨d, looked, linked⟩ := stands₁.linked.calls means isMeant name args.length f found
        rw [← length_of_evaluateAll ran] at looked linked
        exact ⟨isOwn, f, d, rfl, (under.lookupFunction?_eq _ _).trans looked, linked⟩
      exact looked.bind fun f t₂ _ evolves₂ => invoke_tells fuel calls (stands₁.linked.evolve evolves₂)
    | send receiver name args =>
      have given := evaluateAll_tells fuel calls (stands.part fun _ settled => settled.1)
      refine given.bind fun xs t₁ _ evolves₁ => ?_
      have stands₁ := (stands.part fun _ settled => settled.2).evolve evolves₁
      refine (evaluate_tells fuel calls stands₁).bind fun r t₂ _ evolves₂ => ?_
      refine (tells_lift (keeping_methodOf · r name xs.length)).bind fun f t₃ _ evolves₃ => ?_
      exact invoke_tells fuel calls (stands₁.linked.evolve (evolves₂.trans evolves₃))
    | unknown => exact tells_throw _
termination_by fuel
decreasing_by all_goals omega

theorem evaluateAll_tells (fuel calls : Nat) {t : Traced} {home : Home} {scope : ScopeId} {es : List Expr}
    (stands : Stands own meant link home scope t.world fun means => Expr.SettledAll means es) :
    Tells (Told own link) t (conduct.evaluateAll fuel calls home scope es) := by
  cases fuel with
  | zero =>
    unfold Conduct.evaluateAll
    exact tells_throw _
  | succ fuel =>
    unfold Conduct.evaluateAll
    cases es with
    | nil => exact tells_pure _
    | cons e es =>
      have first := evaluate_tells fuel calls (stands.part fun _ settled => settled.1)
      refine first.bind fun x t₁ _ evolves => ?_
      have stands₁ := (stands.part fun _ settled => settled.2).evolve evolves
      exact (evaluateAll_tells fuel calls stands₁).bind fun xs t₂ _ _ => tells_pure _
termination_by fuel
decreasing_by all_goals omega

/-- A function may be one of the program, whose body is then code of the program, or of others. -/
theorem invoke_tells (fuel calls : Nat) {t : Traced} {f : Function} {args : List Value}
    (linked : Linked own meant link t.world) : Tells (Told own link) t (conduct.invoke fuel calls f args) := by
  cases fuel with
  | zero =>
    unfold Conduct.invoke
    exact tells_throw _
  | succ fuel =>
    unfold Conduct.invoke
    refine (tells_lift keeping_get).bind fun w t₁ ran _ => ?_
    cases ran
    cases isBody : t.world.bodies.get? f.number with
    | none => exact tells_pure _
    | some body =>
      cases body with
      | native g => exact tells_lift (keeping_native · isBody args)
      | method params statements scope =>
        cases calls with
        | zero => exact tells_throw _
        | succ calls =>
          have stands : Stands own meant link (.method scope) scope t.world
              fun means => Stmt.SettledAll means statements := by
            refine ⟨linked, ?_⟩
            rintro ⟨rfl⟩
            obtain ⟨isOwn, settledBy⟩ := linked.bodies f.number params statements isBody
            obtain ⟨frame, found⟩ := linked.global
            exact ⟨isOwn.symm, .global found, settledBy⟩
          simp only [bind_assoc, pure_bind]
          refine tells_child ((tells_bindAll _ _).bind fun _ t₂ _ evolves => ?_)
          have ran := executeAll_tells fuel calls (stands.child.evolve evolves)
          exact ran.bind fun _ t₃ _ _ => tells_pure _
termination_by fuel
decreasing_by all_goals omega

theorem execute_tells (fuel calls : Nat) {t : Traced} {home : Home} {scope : ScopeId} {s : Stmt}
    (stands : Stands own meant link home scope t.world fun means => s.Settled means) :
    Tells (Told own link) t (conduct.execute fuel calls home scope s) := by
  cases fuel with
  | zero =>
    unfold Conduct.execute
    exact tells_throw _
  | succ fuel =>
    unfold Conduct.execute
    cases s with
    | expression e => exact (evaluate_tells fuel calls stands).bind fun _ _ _ _ => tells_pure _
    | declaration name typeName initializer =>
      cases initializer with
      | none =>
        refine (tells_pure _).bind fun x t₁ _ _ => ?_
        exact (tells_bind scope name x).bind fun _ _ _ _ => tells_pure _
      | some e =>
        refine (evaluate_tells fuel calls (stands.part fun _ settled => settled e rfl)).bind fun x t₁ _ _ => ?_
        exact (tells_bind scope name x).bind fun _ _ _ _ => tells_pure _
    | assignment target value =>
      have given : ∀ t', t.world.Evolves t'.world → Tells (Told own link) t' (conduct.evaluate fuel calls home scope value) :=
        fun t' evolves => evaluate_tells fuel calls ((stands.part fun _ settled => settled.2).evolve evolves)
      cases target with
      | ref name =>
        refine (tells_lift (keeping_variableOf · scope name)).bind fun v t₁ _ evolves => ?_
        refine (given t₁ evolves).bind fun x t₂ _ _ => ?_
        exact (tells_lift (keeping_write · v x)).bind fun _ _ _ _ => tells_pure _
      | field receiver name =>
        have object : Stands own meant link home scope t.world fun means => receiver.Settled means :=
          stands.part fun _ settled => settled.1
        refine (evaluate_tells fuel calls object).bind fun r t₁ _ evolves => ?_
        refine (given t₁ evolves).bind fun x t₂ _ _ => ?_
        refine (tells_lift (keeping_fieldOf · r name)).bind fun v t₃ _ _ => ?_
        exact (tells_lift (keeping_write · v x)).bind fun _ _ _ _ => tells_pure _
      | _ => exact tells_throw _
    | conditional condition thenPart elsePart =>
      have tested := evaluate_tells fuel calls (stands.part fun _ settled => settled.1)
      refine tested.bind fun x t₁ _ evolves₁ => ?_
      refine (tells_lift (keeping_ofExcept · _)).bind fun c t₂ _ evolves₂ => tells_child ?_
      have inside := (stands.evolve (evolves₁.trans evolves₂)).child
      cases c with
      | true => exact executeAll_tells fuel calls (inside.part fun _ settled => settled.2.1)
      | false => exact executeAll_tells fuel calls (inside.part fun _ settled => settled.2.2)
    | forEach name iterable body =>
      have counted := evaluate_tells fuel calls (stands.part fun _ settled => settled.1)
      refine counted.bind fun x t₁ _ evolves => ?_
      cases Items.ofValue? x with
      | some items => exact forEach_tells fuel calls ((stands.part fun _ settled => settled.2).evolve evolves)
      | none => exact tells_throw _
    | whileLoop condition body => exact whileLoop_tells fuel calls stands
    | ret value => exact (evaluate_tells fuel calls stands).bind fun _ _ _ _ => tells_pure _
    | unknown => exact tells_throw _
termination_by fuel
decreasing_by all_goals omega

theorem executeAll_tells (fuel calls : Nat) {t : Traced} {home : Home} {scope : ScopeId} {ss : List Stmt}
    (stands : Stands own meant link home scope t.world fun means => Stmt.SettledAll means ss) :
    Tells (Told own link) t (conduct.executeAll fuel calls home scope ss) := by
  cases fuel with
  | zero =>
    unfold Conduct.executeAll
    exact tells_throw _
  | succ fuel =>
    unfold Conduct.executeAll
    cases ss with
    | nil => exact tells_pure _
    | cons s ss =>
      have first := execute_tells fuel calls (stands.part fun _ settled => settled.1)
      refine first.bind fun outcome t₁ _ evolves => ?_
      cases outcome with
      | some x => exact tells_pure _
      | none => exact executeAll_tells fuel calls ((stands.part fun _ settled => settled.2).evolve evolves)
termination_by fuel
decreasing_by all_goals omega

theorem forEach_tells (fuel calls : Nat) {t : Traced} {home : Home} {scope : ScopeId} {name : String}
    {body : List Stmt} {items : Items}
    (stands : Stands own meant link home scope t.world fun means => Stmt.SettledAll means body) :
    Tells (Told own link) t (conduct.forEach fuel calls home scope name body items) := by
  cases fuel with
  | zero =>
    unfold Conduct.forEach
    exact tells_throw _
  | succ fuel =>
    unfold Conduct.forEach
    cases items.next? with
    | none => exact tells_pure _
    | some next =>
      obtain ⟨item, items⟩ := next
      refine tells_child ((tells_bind _ name item).bind fun _ t₁ _ evolves₁ => ?_)
      refine (executeAll_tells fuel calls (stands.child.evolve evolves₁)).bind fun outcome t₂ _ evolves₂ => ?_
      cases outcome with
      | some x => exact tells_pure _
      | none =>
        -- The next round starts from the scope of the loop, after all that this one did in its child.
        have evolves := ((World.Evolves.child t.world scope).trans evolves₁).trans evolves₂
        exact forEach_tells fuel calls (stands.evolve evolves)
termination_by fuel
decreasing_by all_goals omega

theorem whileLoop_tells (fuel calls : Nat) {t : Traced} {home : Home} {scope : ScopeId} {condition : Expr}
    {body : List Stmt}
    (stands : Stands own meant link home scope t.world
      fun means => condition.Settled means ∧ Stmt.SettledAll means body) :
    Tells (Told own link) t (conduct.whileLoop fuel calls home scope condition body) := by
  cases fuel with
  | zero =>
    unfold Conduct.whileLoop
    exact tells_throw _
  | succ fuel =>
    unfold Conduct.whileLoop
    have tested := evaluate_tells fuel calls (stands.part fun _ settled => settled.1)
    refine tested.bind fun x t₁ _ evolves₁ => ?_
    refine (tells_lift (keeping_ofExcept · _)).bind fun c t₂ _ evolves₂ => ?_
    have stands₂ := stands.evolve (evolves₁.trans evolves₂)
    cases c with
    | false => exact tells_pure _
    | true =>
      have inside := (stands₂.part fun _ settled => settled.2).child
      refine tells_child ((executeAll_tells fuel calls inside).bind fun outcome t₃ _ evolves₃ => ?_)
      cases outcome with
      | some x => exact tells_pure _
      | none => exact whileLoop_tells fuel calls (stands₂.evolve ((World.Evolves.child t₂.world scope).trans evolves₃))
termination_by fuel
decreasing_by all_goals omega
end

end

end Trace

end Primer
