import Primer.Proofs.Run.Owned

/-!
# Sited runs follow runs

A sited run goes through code of the program and through code of others, such as a function of the scope around
it that was declared from elsewhere. Of others' code nothing is asked but that it leaves the scopes of the
program alone. Code of the program was bound by the check, and its names find the variables that were made at
the sites in their slots.

**The laws** are those of the seven mutually recursive functions, `evaluate_follows` to `whileLoop_follows`: where
the invariant holds, sited code does what code does, whichever way it looks variables up.
-/

namespace Primer.Sited

variable {look : Look} {t t' : Sited} {g scope : ScopeId} {outer? : String → Option Variable}
  {fields : List Variable} {frames : List (List Variable)} {mine : Bool} {place : Option Nat}

theorem access_follows (faithful : look.Faithful) (stands : Stands g outer? fields mine scope frames t)
    {name : String} {binding : Option Variable}
    (bound : mine → ∃ v, binding = some v ∧ Variable.meant outer? frames name = some v) :
    FollowsIn (fun _ => False) t (access look mine scope name binding) (Run.variableOf scope name) := by
  unfold access
  cases mine with
  | false => exact followsIn_lift (Run.keeping_variableOf · scope name)
  | true =>
    obtain ⟨site, rfl, meant⟩ := bound rfl
    obtain ⟨v, found, isMade⟩ := stands.owned.exists_variable (stands.inside rfl) meant
    have looked := faithful t scope name v site stands.owned.named found isMade
    unfold FollowsIn Follows
    rw [if_pos rfl, looked, Run.variableOf_eq_ok found]
    exact .ok (.refl _ t)

/-- A function found by name is called with as many arguments as the check has parameters for it. -/
theorem functionOf_follows (owned : Owned g outer? fields t) (name : String) (arity : Nat) :
    Follows t (lift (Run.functionOf scope name arity)) (Run.functionOf scope name arity) fun d t' =>
      t.Evolves (fun _ => False) t' ∧ Owned g outer? fields t' ∧
        ∀ f, t'.owners d.number = some f → arity = f.params.length := by
  refine follows_lift fun d w ran => ?_
  cases found : t.world.space.lookupFunction? scope name arity with
  | none =>
    rw [Run.functionOf_eq_error found] at ran
    cases ran
  | some d' =>
    rw [Run.functionOf_eq_ok found] at ran
    cases ran
    exact ⟨.refl _ t, owned, fun f owner => owned.arity_of_lookupFunction? found owner⟩

/-- The methods of objects are none of the program's. -/
theorem methodOf_follows (owned : Owned g outer? fields t) (receiver : Value) (name : String) (arity : Nat) :
    Follows t (lift (Run.methodOf receiver name arity)) (Run.methodOf receiver name arity) fun d t' =>
      t.Evolves (fun _ => False) t' ∧ Owned g outer? fields t' ∧ t'.owners d.number = none := by
  refine follows_lift fun d w ran => ?_
  cases receiver with
  | object number typeName =>
    rw [Run.methodOf, Run.bind_get] at ran
    cases found : t.world.methods.find? fun m => m.1 == number && m.2.name == name && m.2.arity == arity + 1 with
    | none =>
      rw [found] at ran
      cases ran
    | some m =>
      rw [found] at ran
      cases ran
      exact ⟨.refl _ t, owned, (owned.methods m (List.mem_of_find?_eq_some found)).2⟩
  | _ => cases ran

/-- The check has a function for a method that is about to be run, if it is one of the program. -/
theorem exists_owner {f : Function} {params : List String} {body : List Stmt} (owned : Owned g outer? fields t)
    (isBody : t.world.bodies.get? f.number = some (.method params body scope)) :
    ∃ owner, ownerOf g f scope t = .ok owner t ∧ ∀ o, owner = some o →
      scope = g ∧ t.owners f.number = some o ∧ o.params.length = params.length ∧
        Stmt.BoundAll outer? (o.bodyNumber params) [(o.paramVariables params).reverse, fields] body := by
  by_cases same : scope = g
  · subst same
    obtain ⟨o, isOwner, arity, bound⟩ := owned.bodies f.number params body isBody
    refine ⟨some o, ?_, ?_⟩
    · rw [ownerOf, if_pos rfl, Look.bind_get, isOwner]
      rfl
    · rintro _ ⟨⟩
      exact ⟨rfl, isOwner, arity, bound⟩
  · refine ⟨none, ?_, fun o isOwner => nomatch isOwner⟩
    rw [ownerOf, if_neg same]
    rfl

theorem names_paramVariables {f : Function} {params : List String} (same : f.params.length = params.length) :
    (f.paramVariables params).map Variable.name = params := by
  rw [Function.paramVariables, Variable.names_ofParams, List.map_fst_zip (Nat.le_of_eq same.symm)]

/-- A method of the program starts with variables made at the sites of its parameters. -/
theorem enter_follows (owned : Owned g outer? fields t) {owner : Option Function} {params : List String}
    {args : List Value} (isOwn : ∀ o, owner = some o → scope = g ∧ o.params.length = params.length ∧
      args.length = params.length) :
    Follows { t with world.space := (t.world.space.child scope).1 }
      (bindAll t.world.space.frames.size (params.zip args) (owner.elim [] fun o => o.paramVariables params))
      (Run.bindAll t.world.space.frames.size (params.zip args)) fun _ t' =>
        Evolves (· = t.world.space.frames.size) { t with world.space := (t.world.space.child scope).1 } t' ∧
          Stands g outer? fields owner.isSome t.world.space.frames.size
            [(owner.elim [] fun o => o.paramVariables params).reverse, fields] t' := by
  have begun : t.Evolves (fun _ => False) { t with world.space := (t.world.space.child scope).1 } :=
    .of_child (.refl _ _)
  have owned₀ := owned.evolve begun fun _ => False.elim
  have later : ∀ i, i = t.world.space.frames.size → g < i := fun i same => same ▸ owned.lt_size
  cases owner with
  | none =>
    refine (bindAll_follows _ [] (.inl rfl)).mono fun _ t' ⟨evolves, _⟩ => ?_
    exact ⟨evolves, owned₀.evolve evolves later, fun isMine => nomatch isMine⟩
  | some o =>
    obtain ⟨rfl, arity, given⟩ := isOwn o rfl
    have names : (o.paramVariables params).map Variable.name = (params.zip args).map Prod.fst := by
      rw [names_paramVariables arity, List.map_fst_zip (Nat.le_of_eq given.symm)]
    have length : (o.paramVariables params).length = (params.zip args).length := by
      simpa using congrArg List.length names
    refine (bindAll_follows _ (o.paramVariables params) (.inr names)).mono fun _ t' ⟨evolves, inside⟩ => ?_
    refine ⟨evolves, owned₀.evolve evolves later, fun _ => ?_⟩
    have entered := inside scope [] [fields] length (owned.global.child.mono fun _ _ => begun.made)
    rw [List.append_nil] at entered
    exact entered

/-- What holds at the place of a statement, and does not depend on it, holds if there is one. -/
theorem of_isSome {p : Prop} (holds : ∀ n, place = some n → p) (isMine : place.isSome) : p := by
  obtain ⟨n, isPlace⟩ := Option.isSome_iff_exists.mp isMine
  exact holds n isPlace

/-- A variable that code of the program makes, and no other, is made at a site. -/
theorem make_follows (stands : Stands g outer? fields mine scope frames t) (later : g < scope) {name : String}
    {site : Option Variable} (x : Value) (isSite : mine → ∃ v, site = some v ∧ v.name = name)
    (unsited : ¬ mine → site = none) :
    Follows t (bind scope name x site) (Run.bind scope name x) fun _ t' => t.Evolves (· = scope) t' ∧
      Stands g outer? fields mine scope ((site.toList ++ frames.headD []) :: frames.tail) t' := by
  have opened : ∀ i, i = scope → g < i := fun i same => same ▸ later
  have named : ∀ v ∈ site, v.name = name := by
    intro v isMade
    cases mine with
    | false =>
      rw [unsited Bool.false_ne_true] at isMade
      cases isMade
    | true =>
      obtain ⟨u, rfl, isNamed⟩ := isSite rfl
      cases isMade
      exact isNamed
  refine (bind_follows named).mono fun _ t' ⟨evolves, added⟩ => ?_
  refine ⟨evolves, stands.owned.evolve evolves opened, fun isMine => ?_⟩
  obtain ⟨v, rfl, -⟩ := isSite isMine
  have inside := stands.inside isMine
  obtain ⟨vs, rest, shape⟩ := inside.exists_cons
  rw [shape] at inside ⊢
  exact added g v rfl vs rest inside

mutual
theorem evaluate_follows (faithful : look.Faithful) (fuel calls : Nat) {scope : ScopeId}
    {frames : List (List Variable)} {place : Option Nat} {t : Sited} {e : Expr}
    (stands : Stands g outer? fields place.isSome scope frames t) (bound : place.isSome → e.BoundIn outer? frames) :
    FollowsIn (fun _ => False) t ((conduct look g).evaluate fuel calls place scope e) (Run.evaluate fuel calls scope e) := by
  cases fuel with
  | zero =>
    unfold Run.evaluate Conduct.evaluate
    exact follows_throw _
  | succ fuel =>
    unfold Run.evaluate Conduct.evaluate
    cases e with
    | literal => exact followsIn_pure _
    | group inner => exact evaluate_follows faithful fuel calls stands bound
    | binary op left right =>
      have first := evaluate_follows faithful fuel calls stands fun isMine => (bound isMine).1
      have second := fun {t'} (evolves : t.Evolves (fun _ => False) t') =>
        evaluate_follows faithful fuel calls (stands.evolve evolves) fun isMine => (bound isMine).2
      dsimp only
      cases op.decisive? with
      | some decisive =>
        refine first.bind fun l t₁ evolves₁ => (followsIn_lift (Run.keeping_ofExcept · _)).bind fun l t₂ evolves₂ => ?_
        by_cases same : l = decisive
        · rw [if_pos same, if_pos same]
          exact followsIn_pure _
        · rw [if_neg same, if_neg same]
          refine (second (evolves₁.trans evolves₂)).bind fun r t₃ _ => ?_
          exact (followsIn_lift (Run.keeping_ofExcept · _)).bind fun r t₄ _ => followsIn_pure _
      | none =>
        refine first.bind fun l t₁ evolves₁ => (second evolves₁).bind fun r t₂ _ => ?_
        exact followsIn_lift (Run.keeping_ofExcept · _)
    | ref name =>
      refine (access_follows faithful stands bound).bind fun v t₁ _ => ?_
      exact followsIn_lift (Run.keeping_read · v)
    | field receiver name =>
      have object : place.isSome → receiver.BoundIn outer? frames := bound
      refine (evaluate_follows faithful fuel calls stands object).bind fun r t₁ _ => ?_
      refine (followsIn_lift (Run.keeping_fieldOf · r name)).bind fun v t₂ _ => ?_
      exact followsIn_lift (Run.keeping_read · v)
    | call name args =>
      refine (evaluateAll_follows faithful fuel calls stands bound).bind fun xs t₁ evolves₁ => ?_
      refine (functionOf_follows (stands.evolve evolves₁).owned name xs.length).bind fun f t₂ looked => ?_
      obtain ⟨evolves₂, owned, fits⟩ := looked
      exact (invoke_follows faithful fuel calls owned fits).mono fun _ _ => evolves₂.trans
    | send receiver name args =>
      have given := evaluateAll_follows faithful fuel calls stands fun isMine => (bound isMine).1
      refine given.bind fun xs t₁ evolves₁ => ?_
      have object := evaluate_follows faithful fuel calls (stands.evolve evolves₁) fun isMine => (bound isMine).2
      refine object.bind fun r t₂ evolves₂ => ?_
      have owned := ((stands.evolve evolves₁).evolve evolves₂).owned
      refine (methodOf_follows owned r name xs.length).bind fun f t₃ ⟨evolves₃, owned₃, unowned⟩ => ?_
      refine (invoke_follows faithful fuel calls owned₃ fun o isOwner => ?_).mono fun _ _ => evolves₃.trans
      rw [unowned] at isOwner
      cases isOwner
    | unknown => exact follows_throw _
termination_by fuel
decreasing_by all_goals omega

theorem evaluateAll_follows (faithful : look.Faithful) (fuel calls : Nat) {scope : ScopeId}
    {frames : List (List Variable)} {place : Option Nat} {t : Sited} {es : List Expr}
    (stands : Stands g outer? fields place.isSome scope frames t)
    (bound : place.isSome → Expr.BoundAll (Variable.meant outer? frames) es) :
    FollowsIn (fun _ => False) t ((conduct look g).evaluateAll fuel calls place scope es)
      (Run.evaluateAll fuel calls scope es) := by
  cases fuel with
  | zero =>
    unfold Run.evaluateAll Conduct.evaluateAll
    exact follows_throw _
  | succ fuel =>
    unfold Run.evaluateAll Conduct.evaluateAll
    cases es with
    | nil => exact followsIn_pure _
    | cons e es =>
      have first := evaluate_follows faithful fuel calls stands fun isMine => (bound isMine).1
      refine first.bind fun x t₁ evolves₁ => ?_
      have others := evaluateAll_follows faithful fuel calls (stands.evolve evolves₁) fun isMine => (bound isMine).2
      exact others.bind fun xs t₂ _ => followsIn_pure _
termination_by fuel
decreasing_by all_goals omega

theorem invoke_follows (faithful : look.Faithful) (fuel calls : Nat) {t : Sited} {f : Function} {args : List Value}
    (owned : Owned g outer? fields t) (fits : ∀ o, t.owners f.number = some o → args.length = o.params.length) :
    FollowsIn (fun _ => False) t ((conduct look g).invoke fuel calls f args) (Run.invoke fuel calls f args) := by
  cases fuel with
  | zero =>
    unfold Run.invoke Conduct.invoke
    exact follows_throw _
  | succ fuel =>
    unfold Run.invoke Conduct.invoke
    refine follows_get ?_
    cases found : t.world.bodies.get? f.number with
    | none => exact followsIn_pure _
    | some body =>
      cases body with
      | native h => exact followsIn_lift (Run.keeping_native · found args)
      | method params statements scope =>
        cases calls with
        | zero => exact follows_throw _
        | succ calls =>
          obtain ⟨owner, read, isOwn⟩ := exists_owner owned found
          simp only [bind_assoc, pure_bind]
          refine Follows.of_read read (followsIn_child ?_)
          have entered : ∀ o, owner = some o → scope = g ∧ o.params.length = params.length ∧
              args.length = params.length := by
            intro o isOwner
            obtain ⟨isGlobal, isFound, arity, -⟩ := isOwn o isOwner
            exact ⟨isGlobal, arity, (fits o isFound).trans arity⟩
          refine (enter_follows owned entered).bind fun _ t₁ ⟨evolves, stands⟩ => ?_
          rw [← Option.isSome_map] at stands
          have bound : ∀ n, (owner.map fun o => o.bodyNumber params) = some n →
              Stmt.BoundAll outer? n [(owner.elim [] fun o => o.paramVariables params).reverse, fields] statements := by
            intro n isPlace
            obtain ⟨o, rfl, rfl⟩ := Option.map_eq_some_iff.mp isPlace
            exact (isOwn o rfl).2.2.2
          have executed := executeAll_follows faithful fuel calls stands owned.lt_size bound
          exact Follows.bind executed fun _ t₂ evolves' => follows_pure (evolves.trans evolves')
termination_by fuel
decreasing_by all_goals omega

theorem execute_follows (faithful : look.Faithful) (fuel calls : Nat) {place : Option Nat} {scope : ScopeId}
    {frames : List (List Variable)} {t : Sited} {s : Stmt}
    (stands : Stands g outer? fields place.isSome scope frames t) (later : g < scope)
    (bound : ∀ n, place = some n → s.Bound outer? n frames) :
    Follows t ((conduct look g).execute fuel calls place scope s) (Run.execute fuel calls scope s) fun outcome t' =>
      t.Evolves (· = scope) t' ∧ (outcome = none →
        Stands g outer? fields place.isSome scope ((s.bindings ++ frames.headD []) :: frames.tail) t') := by
  -- All statements but declarations leave every frame as it is.
  have keeping : s.bindings = [] →
      FollowsIn (fun _ => False) t ((conduct look g).execute fuel calls place scope s) (Run.execute fuel calls scope s) →
      Follows t ((conduct look g).execute fuel calls place scope s) (Run.execute fuel calls scope s) fun outcome t' =>
        t.Evolves (· = scope) t' ∧ (outcome = none →
          Stands g outer? fields place.isSome scope ((s.bindings ++ frames.headD []) :: frames.tail) t') := by
    intro nothing follows
    refine follows.mono fun _ t' evolves => ?_
    obtain ⟨opened, kept⟩ := stands.keep nothing evolves
    exact ⟨opened, fun _ => kept⟩
  cases fuel with
  | zero =>
    unfold Run.execute Conduct.execute
    exact follows_throw _
  | succ fuel =>
    cases s with
    | expression e =>
      refine keeping rfl ?_
      unfold Run.execute Conduct.execute
      have evaluated := evaluate_follows faithful fuel calls (e := e) stands (of_isSome bound)
      exact evaluated.bind fun _ _ _ => followsIn_pure _
    | declaration name typeName initializer offset binding =>
      have declared : ∀ x t₁, t.Evolves (fun _ => False) t₁ →
          Follows t₁ (do bind scope name x (if place.isSome then binding else none); return (none : Option Value))
            (do Run.bind scope name x; return none) fun outcome t' => t.Evolves (· = scope) t' ∧ (outcome = none →
              Stands g outer? fields place.isSome scope ((binding.toList ++ frames.headD []) :: frames.tail) t') := by
        intro x t₁ evolves₁
        have isSite : place.isSome → ∃ v, (if place.isSome then binding else none) = some v ∧ v.name = name := by
          intro isMine
          rw [if_pos isMine]
          exact of_isSome (fun n isPlace => (bound n isPlace).2.imp fun v same => ⟨same.1, same.2.1⟩) isMine
        refine (make_follows (stands.evolve evolves₁) later x isSite (if_neg ·)).bind fun _ t₂ ⟨evolves₂, after⟩ => ?_
        refine follows_pure ⟨evolves₁.open.trans evolves₂, fun _ => ⟨after.owned, fun isMine => ?_⟩⟩
        have inside := after.inside isMine
        rwa [if_pos isMine] at inside
      unfold Run.execute Conduct.execute
      cases initializer with
      | none => exact Follows.bind (follows_pure (.refl _ t)) declared
      | some e =>
        have evaluated := evaluate_follows faithful fuel calls stands
          (of_isSome fun n isPlace => (bound n isPlace).1 e rfl)
        exact Follows.bind evaluated declared
    | assignment target value =>
      refine keeping rfl ?_
      unfold Run.execute Conduct.execute
      have left := of_isSome fun n isPlace => (bound n isPlace).1
      have right := fun {t'} (evolves : t.Evolves (fun _ => False) t') =>
        evaluate_follows faithful fuel calls (stands.evolve evolves) (of_isSome fun n isPlace => (bound n isPlace).2)
      cases target with
      | ref name =>
        refine (access_follows faithful stands left).bind fun v t₁ evolves₁ => ?_
        refine (right evolves₁).bind fun x t₂ _ => ?_
        exact (followsIn_lift (Run.keeping_write · v x)).bind fun _ _ _ => followsIn_pure _
      | field receiver name =>
        have object : place.isSome → receiver.BoundIn outer? frames := left
        refine (evaluate_follows faithful fuel calls stands object).bind fun r t₁ evolves₁ => ?_
        refine (right evolves₁).bind fun x t₂ _ => ?_
        refine (followsIn_lift (Run.keeping_fieldOf · r name)).bind fun v t₃ _ => ?_
        exact (followsIn_lift (Run.keeping_write · v x)).bind fun _ _ _ => followsIn_pure _
      | _ => exact follows_throw _
    | conditional condition thenPart elsePart =>
      refine keeping rfl ?_
      unfold Run.execute Conduct.execute
      have tested := evaluate_follows faithful fuel calls stands (of_isSome fun n isPlace => (bound n isPlace).1)
      refine tested.bind fun x t₁ evolves₁ => ?_
      refine (followsIn_lift (Run.keeping_ofExcept · _)).bind fun c t₂ evolves₂ => followsIn_child ?_
      have stands₂ := ((stands.evolve evolves₁).evolve evolves₂).child
      have inner := ((stands.evolve evolves₁).evolve evolves₂).owned.lt_size
      cases c with
      | true => exact executeAll_follows faithful fuel calls stands₂ inner fun n isPlace => (bound n isPlace).2.1
      | false =>
        rw [← Option.isSome_map] at stands₂
        refine executeAll_follows faithful fuel calls stands₂ inner ?_
        intro n isPlace
        obtain ⟨m, rfl, rfl⟩ := Option.map_eq_some_iff.mp isPlace
        exact (bound m rfl).2.2
    | forEach name iterable body =>
      refine keeping rfl ?_
      unfold Run.execute Conduct.execute
      have iterated := evaluate_follows faithful fuel calls stands (of_isSome fun n isPlace => (bound n isPlace).1)
      refine iterated.bind fun x t₁ evolves₁ => ?_
      cases Items.ofValue? x with
      | some items =>
        exact forEach_follows faithful fuel calls items (stands.evolve evolves₁) fun n isPlace => (bound n isPlace).2
      | none => exact follows_throw _
    | whileLoop condition body =>
      refine keeping rfl ?_
      unfold Run.execute Conduct.execute
      exact whileLoop_follows faithful fuel calls stands (of_isSome fun n isPlace => (bound n isPlace).1)
        fun n isPlace => (bound n isPlace).2
    | ret value =>
      refine keeping rfl ?_
      unfold Run.execute Conduct.execute
      have evaluated := evaluate_follows faithful fuel calls (e := value) stands (of_isSome bound)
      exact evaluated.bind fun _ _ _ => followsIn_pure _
    | unknown =>
      unfold Run.execute Conduct.execute
      exact follows_throw _
termination_by fuel
decreasing_by all_goals omega

theorem executeAll_follows (faithful : look.Faithful) (fuel calls : Nat) {place : Option Nat} {scope : ScopeId}
    {frames : List (List Variable)} {t : Sited} {ss : List Stmt}
    (stands : Stands g outer? fields place.isSome scope frames t) (later : g < scope)
    (bound : ∀ n, place = some n → Stmt.BoundAll outer? n frames ss) :
    FollowsIn (· = scope) t ((conduct look g).executeAll fuel calls place scope ss) (Run.executeAll fuel calls scope ss) := by
  cases fuel with
  | zero =>
    unfold Run.executeAll Conduct.executeAll
    exact follows_throw _
  | succ fuel =>
    unfold Run.executeAll Conduct.executeAll
    cases ss with
    | nil => exact followsIn_pure _
    | cons s ss =>
      have first := execute_follows faithful fuel calls stands later fun n isPlace => (bound n isPlace).1
      refine first.bind fun outcome t₁ ⟨evolves, after⟩ => ?_
      cases outcome with
      | some x => exact follows_pure evolves
      | none =>
        have stands₁ := after rfl
        rw [← Option.isSome_map] at stands₁
        have boundRest : ∀ n, place.map (· + s.count) = some n →
            Stmt.BoundAll outer? n ((s.bindings ++ frames.headD []) :: frames.tail) ss := by
          intro n isPlace
          obtain ⟨m, rfl, rfl⟩ := Option.map_eq_some_iff.mp isPlace
          exact (bound m rfl).2
        exact (executeAll_follows faithful fuel calls stands₁ later boundRest).mono fun _ _ => evolves.trans
termination_by fuel
decreasing_by all_goals omega

theorem forEach_follows (faithful : look.Faithful) (fuel calls : Nat) {place : Option Nat} {scope : ScopeId}
    {frames : List (List Variable)} {t : Sited} {name : String} {body : List Stmt} (items : Items)
    (stands : Stands g outer? fields place.isSome scope frames t)
    (bound : ∀ n, place = some n → Stmt.BoundAll outer? (n + 1) ([.ofLoop n name] :: frames) body) :
    FollowsIn (fun _ => False) t ((conduct look g).forEach fuel calls place scope name body items)
      (Run.forEach fuel calls scope name body items) := by
  cases fuel with
  | zero =>
    unfold Run.forEach Conduct.forEach
    exact follows_throw _
  | succ fuel =>
    unfold Run.forEach Conduct.forEach
    cases items.next? with
    | none => exact followsIn_pure _
    | some next =>
      obtain ⟨item, items⟩ := next
      have isSite : place.isSome → ∃ v, place.map (Variable.ofLoop · name) = some v ∧ v.name = name := by
        intro isMine
        obtain ⟨n, rfl⟩ := Option.isSome_iff_exists.mp isMine
        exact ⟨_, rfl, rfl⟩
      have unsited : ¬ place.isSome → place.map (Variable.ofLoop · name) = none := by
        intro others
        rw [Option.not_isSome_iff_eq_none.mp others]
        rfl
      refine followsIn_child ?_
      refine (make_follows stands.child stands.owned.lt_size item isSite unsited).bind fun _ t₁ ⟨evolves₁, after⟩ => ?_
      have stands₁ : Stands g outer? fields (place.map (· + 1)).isSome t.world.space.frames.size
          ((place.map (Variable.ofLoop · name)).toList :: frames) t₁ := by
        rw [Option.isSome_map, ← List.append_nil (Option.toList _)]
        exact after
      have boundBody : ∀ n, place.map (· + 1) = some n →
          Stmt.BoundAll outer? n ((place.map (Variable.ofLoop · name)).toList :: frames) body := by
        intro n isPlace
        obtain ⟨m, rfl, rfl⟩ := Option.map_eq_some_iff.mp isPlace
        exact bound m rfl
      have executed := executeAll_follows faithful fuel calls stands₁ stands.owned.lt_size boundBody
      refine Follows.bind executed fun outcome t₂ evolves₂ => ?_
      have evolves := evolves₁.trans evolves₂
      cases outcome with
      | some x => exact follows_pure evolves
      | none =>
        have again := forEach_follows faithful fuel calls items (stands.evolve (.of_child evolves)) bound
        exact again.mono fun _ _ evolves₃ => evolves.trans evolves₃.open
termination_by fuel
decreasing_by all_goals omega

theorem whileLoop_follows (faithful : look.Faithful) (fuel calls : Nat) {place : Option Nat} {scope : ScopeId}
    {frames : List (List Variable)} {t : Sited} {condition : Expr} {body : List Stmt}
    (stands : Stands g outer? fields place.isSome scope frames t)
    (tested : place.isSome → condition.BoundIn outer? frames)
    (bound : ∀ n, place = some n → Stmt.BoundAll outer? n ([] :: frames) body) :
    FollowsIn (fun _ => False) t ((conduct look g).whileLoop fuel calls place scope condition body)
      (Run.whileLoop fuel calls scope condition body) := by
  cases fuel with
  | zero =>
    unfold Run.whileLoop Conduct.whileLoop
    exact follows_throw _
  | succ fuel =>
    unfold Run.whileLoop Conduct.whileLoop
    refine (evaluate_follows faithful fuel calls stands tested).bind fun x t₁ evolves₁ => ?_
    refine (followsIn_lift (Run.keeping_ofExcept · _)).bind fun c t₂ evolves₂ => ?_
    have stands₂ := (stands.evolve evolves₁).evolve evolves₂
    cases c with
    | true =>
      refine followsIn_child ?_
      have executed := executeAll_follows faithful fuel calls stands₂.child stands₂.owned.lt_size bound
      refine Follows.bind executed fun outcome t₃ evolves₃ => ?_
      cases outcome with
      | some x => exact follows_pure evolves₃
      | none =>
        have again := whileLoop_follows faithful fuel calls (stands₂.evolve (.of_child evolves₃)) tested bound
        exact again.mono fun _ _ evolves₄ => evolves₃.trans evolves₄.open
    | false => exact followsIn_pure _
termination_by fuel
decreasing_by all_goals omega
end

end Primer.Sited
