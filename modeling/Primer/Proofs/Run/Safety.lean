import Primer.Proofs.Run.Invariant

/-!
# Running what was checked

A phrase that was admitted in the context of its place is safe to run there, however much fuel and however
many calls are left: it resolves every name, binds none twice and, in a strict program, treats every value
as what it is. An expression gives a value of its type; a statement or a block that ends its method gives a
value of the result type, and a block that is closed never ends without one.

**The laws** are those of the seven mutually recursive functions, `evaluate_safe` to `whileLoop_safe`, by
induction on fuel. A call starts the body of a method afresh, in a context that the whole program admitted,
so nothing is assumed about recursion.
-/

namespace Primer

theorem Operates.boolean_of_decisive {op : Operator} {l r t : Ty} {decisive : Bool} (operates : Operates op l r t)
    (isLogical : op.decisive? = some decisive) : l = .boolean ∧ r = .boolean ∧ t = .boolean := by
  cases operates with
  | logical => exact ⟨rfl, rfl, rfl⟩
  | comparison isComparison =>
    simp only [List.mem_cons, List.not_mem_nil, or_false] at isComparison
    rcases isComparison with rfl | rfl | rfl | rfl | rfl | rfl <;> cases isLogical
  | join => cases isLogical
  | arithmetic isArithmetic =>
    simp only [List.mem_cons, List.not_mem_nil, or_false] at isArithmetic
    rcases isArithmetic with rfl | rfl | rfl | rfl <;> cases isLogical

theorem Ty.holds_of_forall₂_accepts {wanted given : List Ty} {xs : List Value}
    (accepted : List.Forall₂ (fun wanted given => wanted.accepts given) wanted given)
    (holds : List.Forall₂ Ty.Holds given xs) : List.Forall₂ Ty.Holds wanted xs := by
  induction accepted generalizing xs with
  | nil => exact holds
  | cons first _ ih =>
    cases holds with
    | cons one others => exact .cons (Ty.holds_of_accepts first one) (ih others)

/-- A type that nothing is held to holds everything. -/
theorem Ty.holds_of_binding {t : Ty} {x : Value} (holds : t ≠ .nil → t ≠ .any → t.Holds x) : t.Holds x := by
  cases t with
  | nil | any => trivial
  | _ => exact holds Ty.noConfusion Ty.noConfusion

theorem Stmt.closes_cons {s : Stmt} {ss : List Stmt} (closes : Stmt.closes (s :: ss)) :
    Stmt.closes ss ∨ Stmt.closes [s] := by
  cases ss with
  | nil => exact .inr closes
  | cons p ss =>
    rw [Stmt.closes, List.getLast?_cons_cons] at closes
    exact .inl closes

/-- What a statement or block gives: a value of the result type, or nothing unless it is closed. -/
def Gives (strict : Prop) (result : Ty) (closed : Prop) : Option Value → Prop
  | some x => strict → result.Holds x
  | none => ¬ closed

theorem Gives.mono {strict closed closed' : Prop} {result : Ty} {outcome : Option Value}
    (gives : Gives strict result closed outcome) (narrower : closed' → closed) :
    Gives strict result closed' outcome := by
  cases outcome with
  | some x => exact gives
  | none => exact fun isClosed => gives (narrower isClosed)

namespace Run

variable {base c : Context} {g scope : ScopeId} {opened : ScopeId → Prop} {k : Known} {w : World}

theorem safe_toBool (sound : Sound base g k w) {x : Value} (holds : base.strict → Ty.boolean.Holds x) :
    Safe base g opened k w (fun _ _ _ => True) (ofExcept x.toBool) := by
  refine safe_ofExcept sound (fun _ _ => trivial) fun f failed => ⟨?_, fun strict => ?_⟩
  · cases x <;> cases failed <;> rfl
  · obtain ⟨b, rfl⟩ := Value.eq_bool_of_holds (holds strict)
    cases failed

/-- The arguments of a call are bound to the parameters, each of the type that it was checked for. -/
theorem forall₂_params {P : Prop} {names : List String} {types : List Ty} {args : List Value} {vs : List Variable}
    (described : vs.map (fun v => (v.name, v.type)) = names.zip types) (enough : types.length = names.length)
    (given : args.length = names.length) (holds : P → List.Forall₂ Ty.Holds types args) :
    List.Forall₂ (fun p v => p.1 = v.name ∧ (P → v.type.Holds p.2)) (names.zip args) vs := by
  induction names generalizing types args vs with
  | nil =>
    rw [List.zip_nil_left, List.map_eq_nil_iff] at described
    rw [described]
    exact .nil
  | cons name names ih =>
    cases types with
    | nil => cases enough
    | cons t types =>
      cases args with
      | nil => cases given
      | cons x args =>
        cases vs with
        | nil => cases described
        | cons v vs =>
          rw [List.map_cons, List.zip_cons_cons, List.cons.injEq, Prod.mk.injEq] at described
          obtain ⟨⟨rfl, rfl⟩, described⟩ := described
          have first : P → v.type.Holds x ∧ List.Forall₂ Ty.Holds types args :=
            fun strict => List.forall₂_cons.mp (holds strict)
          refine .cons ⟨rfl, fun strict => (first strict).1⟩ ?_
          exact ih described (Nat.succ.inj enough) (Nat.succ.inj given) fun strict => (first strict).2

mutual
theorem evaluate_safe (fuel calls : Nat) {k : Known} {w : World} {c : Context} {scope : ScopeId}
    {e : Expr} {t : Ty} (sound : Sound base g k w)
    (placed : Placed base g k c scope w) (typed : c.Types e t) :
    Safe base g (fun _ => False) k w (fun x _ _ => base.strict → t.Holds x) (evaluate fuel calls scope e) := by
  cases fuel with
  | zero =>
    unfold evaluate Conduct.evaluate
    exact safe_throw trivial
  | succ fuel =>
    unfold evaluate Conduct.evaluate
    cases typed with
    | literal typed => exact safe_pure sound fun _ => Ty.holds_of_literalType typed
    | group inside => exact evaluate_safe fuel calls sound placed inside
    | @binary op left right offset l r t first second operates ordered =>
      have first' := evaluate_safe fuel calls sound placed first
      dsimp only
      split
      next decisive isLogical =>
        obtain ⟨rfl, rfl, rfl⟩ := operates.boolean_of_decisive isLogical
        refine first'.bind fun x k₁ w₁ follows₁ holds => ?_
        refine (safe_toBool follows₁.sound holds).bind fun b k₂ w₂ follows₂ _ => ?_
        have placed₂ := placed.follow (follows₁.trans follows₂) fun _ => False.elim
        split
        next => exact safe_pure follows₂.sound fun _ => trivial
        next =>
          refine (evaluate_safe fuel calls follows₂.sound placed₂ second).bind fun y k₃ w₃ follows₃ holds => ?_
          refine (safe_toBool follows₃.sound holds).bind fun b' k₄ w₄ follows₄ _ => ?_
          exact safe_pure follows₄.sound fun _ => trivial
      next plain =>
        refine first'.bind fun x k₁ w₁ follows₁ left => ?_
        have placed₁ := placed.follow follows₁ fun _ => False.elim
        refine (evaluate_safe fuel calls follows₁.sound placed₁ second).bind fun y k₂ w₂ follows₂ right => ?_
        have combined := fun strict =>
          Value.combine_of_holds operates plain (ordered (placed.within.strict strict)) (left strict) (right strict)
        refine safe_ofExcept follows₂.sound (fun z same strict => (combined strict).1 z same) fun f failed => ?_
        exact ⟨Value.isOfNames_of_combine failed, fun strict => (combined strict).2 f failed⟩
    | ref found =>
      refine (safe_variableOf sound placed found).bind fun d k₁ w₁ follows₁ same => ?_
      exact safe_read follows₁.sound same
    | field object found =>
      rw [placed.within.catalog, sound.catalog] at found
      cases found
    | @call name args offset types f given found accepted =>
      refine (evaluateAll_safe fuel calls sound placed given).bind fun xs k₁ w₁ follows₁ ⟨isLength, holds⟩ => ?_
      have placed₁ := placed.follow follows₁ fun _ => False.elim
      rw [← isLength] at found
      refine (safe_functionOf follows₁.sound placed₁ found).bind fun d k₂ w₂ follows₂ realised => ?_
      obtain ⟨f', realises, isArity, same⟩ := realised
      have given' : base.strict → List.Forall₂ Ty.Holds f'.params xs := by
        intro strict
        rw [same strict]
        exact Ty.holds_of_forall₂_accepts accepted (holds strict)
      refine (invoke_safe fuel calls follows₂.sound realises isArity.symm given').imp (fun _ => id) ?_
      intro x k₃ w₃ _ holds strict
      rw [← same strict]
      exact holds strict
    | send given object found =>
      rw [placed.within.catalog, sound.catalog] at found
      cases found
termination_by fuel
decreasing_by all_goals omega

theorem evaluateAll_safe (fuel calls : Nat) {k : Known} {w : World} {c : Context} {scope : ScopeId}
    {es : List Expr} {ts : List Ty} (sound : Sound base g k w)
    (placed : Placed base g k c scope w) (typed : c.TypesAll es ts) :
    Safe base g (fun _ => False) k w
      (fun xs _ _ => xs.length = ts.length ∧ (base.strict → List.Forall₂ Ty.Holds ts xs))
      (evaluateAll fuel calls scope es) := by
  cases fuel with
  | zero =>
    unfold evaluateAll Conduct.evaluateAll
    exact safe_throw trivial
  | succ fuel =>
    unfold evaluateAll Conduct.evaluateAll
    cases typed with
    | nil => exact safe_pure sound ⟨rfl, fun _ => .nil⟩
    | cons first others =>
      refine (evaluate_safe fuel calls sound placed first).bind fun x k₁ w₁ follows₁ holds => ?_
      have placed₁ := placed.follow follows₁ fun _ => False.elim
      refine (evaluateAll_safe fuel calls follows₁.sound placed₁ others).bind fun xs k₂ w₂ follows₂ rest => ?_
      refine safe_pure follows₂.sound ⟨?_, fun strict => .cons (holds strict) (rest.2 strict)⟩
      rw [List.length_cons, List.length_cons, rest.1]
termination_by fuel
decreasing_by all_goals omega

theorem invoke_safe (fuel calls : Nat) {k : Known} {w : World}
    {d f : Function} {args : List Value} (sound : Sound base g k w)
    (realises : Realises base g w.bodies d f) (enough : args.length = f.arity)
    (given : base.strict → List.Forall₂ Ty.Holds f.params args) :
    Safe base g (fun _ => False) k w (fun x _ _ => base.strict → f.result.Holds x)
      (invoke fuel calls d args) := by
  cases fuel with
  | zero =>
    unfold invoke Conduct.invoke
    exact safe_throw trivial
  | succ fuel =>
    unfold invoke Conduct.invoke
    change Safe base g _ k w _ (match w.bodies.get? d.number with
      | none => pure .nil
      | some (.native g) => native g args
      | some (.method params statements scope) =>
        match calls with
        | 0 => throw (.fault .stackOverflow)
        | calls + 1 => do
          let entered ← plain.enter d scope params args
          return (← executeAll fuel calls entered.1 statements).getD .nil)
    cases realises with
    | print found result =>
      rw [found]
      refine (safe_print sound args).imp (fun _ => id) fun x _ _ _ _ _ => ?_
      rw [result]
      trivial
    | @method c m found within frames admitted =>
      rw [found]
      cases calls with
      | zero => exact safe_throw ⟨rfl, fun _ => rfl⟩
      | succ calls =>
        obtain ⟨vs, described, admits⟩ := admitted.body
        have arity : f.params.length = (m.params.map Param.name).length := by
          rw [List.length_map]
          exact admitted.arity
        have names : vs.reverse.map Variable.name = m.params.map Param.name := by
          have firsts := congrArg (List.map Prod.fst) described
          rwa [List.map_map, List.map_fst_zip (Nat.le_of_eq arity.symm)] at firsts
        have placed : Placed base g k { c with result := f.result } g w :=
          ⟨within.withResult f.result, frames ▸ sound.global⟩
        simp only [bind_assoc, pure_bind]
        refine safe_child sound placed fun frame w₁ inner sound₁ _ placed₁ => ?_
        have related := forall₂_params described arity (enough.trans arity) given
        refine (safe_bindAll inner related (names ▸ admitted.distinct) (fun v _ => Context.free_enter _ v.name) sound₁
          placed₁).bind ?_
        intro _ k₂ w₂ follows₂ placed₂
        rw [List.reverse_reverse, Context.extend_enter, List.append_nil] at placed₂
        refine (executeAll_safe fuel calls inner follows₂.sound placed₂ admits).bind ?_
        intro outcome k₃ w₃ follows₃ gives
        refine safe_pure follows₃.sound fun strict => ?_
        cases outcome with
        | some x => exact gives strict
        | none =>
          refine Ty.holds_of_binding fun notNil notAny => ?_
          exact absurd (admitted.closed (within.strict strict) notNil notAny) gives
termination_by fuel
decreasing_by all_goals omega

theorem execute_safe (fuel calls : Nat) {k : Known} {w : World} {c : Context} {scope : ScopeId}
    {s : Stmt} {vs : List Variable} (inner : g < scope)
    (sound : Sound base g k w) (placed : Placed base g k c scope w) (admitted : c.Admits s vs) :
    Safe base g (· = scope) k w
      (fun outcome k' w' => Placed base g k' (c.extend vs) scope w' ∧
        Gives base.strict c.result (Stmt.closes [s]) outcome)
      (execute fuel calls scope s) := by
  cases fuel with
  | zero =>
    unfold execute Conduct.execute
    exact safe_throw trivial
  | succ fuel =>
    unfold execute Conduct.execute
    cases admitted with
    | expression typed =>
      refine (evaluate_safe fuel calls sound placed typed).andThen fun x k₁ w₁ follows₁ _ => ?_
      have placed₁ := placed.follow follows₁ fun _ => False.elim
      exact safe_pure follows₁.sound ⟨placed₁.extend_nil, by simp [Gives, Stmt.closes]⟩
    | @declaration _ typeName initializer offset v free typed initialized =>
      have bound : ∀ x k₁ w₁, Follows base g (fun _ => False) k w k₁ w₁ → (base.strict → v.type.Holds x) →
          Safe base g (· = scope) k₁ w₁
            (fun outcome k' w' => Placed base g k' (c.extend [v]) scope w' ∧
              Gives base.strict c.result (Stmt.closes [.declaration v.name typeName initializer offset (some v)])
                outcome)
            (do Run.bind scope v.name x; return none) := by
        intro x k₁ w₁ follows₁ holds
        have placed₁ := placed.follow follows₁ fun _ => False.elim
        refine (safe_bind follows₁.sound placed₁ inner free holds).bind fun _ k₂ w₂ follows₂ placed₂ => ?_
        exact safe_pure follows₂.sound ⟨placed₂, by simp [Gives, Stmt.closes]⟩
      cases initializer with
      | none =>
        have nothing : Safe base g (fun _ => False) k w (fun _ _ _ => True) (pure Value.nil) := safe_pure sound trivial
        refine nothing.andThen fun x k₁ w₁ follows₁ _ => bound x k₁ w₁ follows₁ fun strict => ?_
        exact absurd rfl (initialized (placed.within.strict strict))
      | some e => exact (evaluate_safe fuel calls sound placed (typed e rfl)).andThen bound
    | assignment isAccess left right accepted =>
      cases left with
      | @ref name offset v found =>
        refine (safe_variableOf sound placed found).andThen fun d k₁ w₁ follows₁ same => ?_
        have placed₁ := placed.follow follows₁ fun _ => False.elim
        refine (evaluate_safe fuel calls follows₁.sound placed₁ right).andThen fun x k₂ w₂ follows₂ holds => ?_
        have placed₂ := placed₁.follow follows₂ fun _ => False.elim
        refine (safe_write follows₂.sound (same.mono follows₂.more) fun strict =>
          Ty.holds_of_accepts accepted (holds strict)).andThen fun _ k₃ w₃ follows₃ _ => ?_
        have placed₃ := placed₂.follow follows₃ fun _ => False.elim
        exact safe_pure follows₃.sound ⟨placed₃.extend_nil, by simp [Gives, Stmt.closes]⟩
      | field object found =>
        rw [placed.within.catalog, sound.catalog] at found
        cases found
      | _ => cases isAccess
    | @conditional _ condition thenPart elsePart offset tested first second =>
      refine (evaluate_safe fuel calls sound placed tested).andThen fun x k₁ w₁ follows₁ holds => ?_
      refine (safe_toBool follows₁.sound holds).andThen fun b k₂ w₂ follows₂ _ => ?_
      have placed₂ := placed.follow (follows₁.trans follows₂) fun _ => False.elim
      refine (safe_child follows₂.sound placed₂ fun block w₃ later sound₃ placed₃ inBlock => ?_).open
      have part : ∀ ss, (c.enter []).AdmitsAll ss → Safe base g (· = block) k₂ w₃ (fun outcome k' w' =>
          Placed base g k' (c.extend []) scope w' ∧
            Gives base.strict c.result (Stmt.closes [.conditional condition thenPart elsePart offset]) outcome)
          (executeAll fuel calls block ss) := by
        intro ss chosen
        refine (executeAll_safe fuel calls (Nat.lt_trans inner later) sound₃ inBlock chosen).imp (fun _ => id) ?_
        intro outcome k₄ w₄ follows₄ gives
        exact ⟨(placed₃.follow follows₄ fun i same => same ▸ later).extend_nil, gives.mono (by simp [Stmt.closes])⟩
      cases b with
      | true => exact part thenPart first
      | false => exact part elsePart second
    | @forEach _ iterable body offset v iterates counts inside =>
      refine (evaluate_safe fuel calls sound placed iterates).andThen fun x k₁ w₁ follows₁ holds => ?_
      have placed₁ := placed.follow follows₁ fun _ => False.elim
      split
      next items isItems =>
        have whole : base.strict → ∃ lo hi, items = .range lo hi := by
          intro strict
          obtain ⟨lo, hi, rfl⟩ := Value.eq_range_of_holds (holds strict)
          cases isItems
          exact ⟨lo, hi, rfl⟩
        refine (forEach_safe fuel calls follows₁.sound placed₁ counts inside whole).imp (fun _ => False.elim) ?_
        intro outcome k₂ w₂ _ ⟨placed₂, gives⟩
        exact ⟨placed₂.extend_nil, gives.mono (by simp [Stmt.closes])⟩
      next notItems =>
        refine safe_throw ⟨rfl, fun strict => ?_⟩
        obtain ⟨lo, hi, rfl⟩ := Value.eq_range_of_holds (holds strict)
        cases notItems
    | whileLoop tested inside =>
      refine (whileLoop_safe fuel calls sound placed tested inside).imp (fun _ => False.elim) ?_
      intro outcome k₁ w₁ _ ⟨placed₁, gives⟩
      exact ⟨placed₁.extend_nil, gives.mono (by simp [Stmt.closes])⟩
    | @ret _ value offset t typed returned =>
      refine (evaluate_safe fuel calls sound placed typed).andThen fun x k₁ w₁ follows₁ holds => ?_
      have placed₁ := placed.follow follows₁ fun _ => False.elim
      refine safe_pure follows₁.sound ⟨placed₁.extend_nil, fun strict => Ty.holds_of_binding fun notNil notAny => ?_⟩
      exact Ty.holds_of_accepts (returned (placed.within.strict strict) notNil notAny) (holds strict)
termination_by fuel
decreasing_by all_goals omega

theorem executeAll_safe (fuel calls : Nat) {k : Known} {w : World} {c : Context} {scope : ScopeId}
    {ss : List Stmt} (inner : g < scope)
    (sound : Sound base g k w) (placed : Placed base g k c scope w) (admitted : c.AdmitsAll ss) :
    Safe base g (· = scope) k w (fun outcome _ _ => Gives base.strict c.result (Stmt.closes ss) outcome)
      (executeAll fuel calls scope ss) := by
  cases fuel with
  | zero =>
    unfold executeAll Conduct.executeAll
    exact safe_throw trivial
  | succ fuel =>
    unfold executeAll Conduct.executeAll
    cases admitted with
    | nil =>
      exact safe_pure sound (by simp [Gives, Stmt.closes])
    | cons first others =>
      refine (execute_safe fuel calls inner sound placed first).bind fun outcome k₁ w₁ follows₁ ⟨placed₁, gives⟩ => ?_
      cases outcome with
      | some x => exact safe_pure follows₁.sound gives
      | none =>
        refine (executeAll_safe fuel calls inner follows₁.sound placed₁ others).imp (fun _ => id) ?_
        exact fun _ _ _ _ rest => rest.mono fun closes => (Stmt.closes_cons closes).resolve_right gives
termination_by fuel
decreasing_by all_goals omega

theorem forEach_safe (fuel calls : Nat) {k : Known} {w : World} {c : Context} {scope : ScopeId}
    {body : List Stmt} {v : Variable} {items : Items}
    (sound : Sound base g k w) (placed : Placed base g k c scope w) (counts : v.type = .integer)
    (admitted : (c.enter [v]).AdmitsAll body) (whole : base.strict → ∃ lo hi, items = .range lo hi) :
    Safe base g (fun _ => False) k w
      (fun outcome k' w' => Placed base g k' c scope w' ∧ Gives base.strict c.result False outcome)
      (forEach fuel calls scope v.name body items) := by
  cases fuel with
  | zero =>
    unfold forEach Conduct.forEach
    exact safe_throw trivial
  | succ fuel =>
    unfold forEach Conduct.forEach
    split
    next => exact safe_pure sound ⟨placed, id⟩
    next item rest isNext =>
      have holds : base.strict → v.type.Holds item ∧ ∃ lo hi, rest = .range lo hi := by
        intro strict
        obtain ⟨lo, hi, rfl⟩ := whole strict
        simp only [Items.next?] at isNext
        split at isNext <;> cases isNext
        rw [counts]
        exact ⟨trivial, _, _, rfl⟩
      refine safe_child sound placed fun block w₁ later sound₁ placed₁ inBlock => ?_
      have inner := Nat.lt_of_le_of_lt placed.inside.global_le later
      refine (safe_bind sound₁ inBlock inner (Context.free_enter c v.name) fun strict => (holds strict).1).bind ?_
      intro _ k₂ w₂ follows₂ inBlock₂
      have placed₂ := placed₁.follow follows₂ fun i same => same ▸ later
      have ran := executeAll_safe fuel calls inner follows₂.sound inBlock₂ admitted
      refine ran.bind fun outcome k₃ w₃ follows₃ gives => ?_
      have placed₃ := placed₂.follow follows₃ fun i same => same ▸ later
      cases outcome with
      | some x => exact safe_pure follows₃.sound ⟨placed₃, gives⟩
      | none =>
        exact (forEach_safe fuel calls follows₃.sound placed₃ counts admitted fun strict => (holds strict).2).open
termination_by fuel
decreasing_by all_goals omega

theorem whileLoop_safe (fuel calls : Nat) {k : Known} {w : World} {c : Context} {scope : ScopeId}
    {condition : Expr} {body : List Stmt}
    (sound : Sound base g k w) (placed : Placed base g k c scope w) (tested : c.Types condition .boolean)
    (admitted : (c.enter []).AdmitsAll body) :
    Safe base g (fun _ => False) k w
      (fun outcome k' w' => Placed base g k' c scope w' ∧ Gives base.strict c.result False outcome)
      (whileLoop fuel calls scope condition body) := by
  cases fuel with
  | zero =>
    unfold whileLoop Conduct.whileLoop
    exact safe_throw trivial
  | succ fuel =>
    unfold whileLoop Conduct.whileLoop
    refine (evaluate_safe fuel calls sound placed tested).bind fun x k₁ w₁ follows₁ holds => ?_
    refine (safe_toBool follows₁.sound holds).bind fun b k₂ w₂ follows₂ _ => ?_
    have placed₂ := placed.follow (follows₁.trans follows₂) fun _ => False.elim
    split
    next =>
      refine safe_child follows₂.sound placed₂ fun block w₃ later sound₃ placed₃ inBlock => ?_
      have inner := Nat.lt_of_le_of_lt placed.inside.global_le later
      refine (executeAll_safe fuel calls inner sound₃ inBlock admitted).bind fun outcome k₄ w₄ follows₄ gives => ?_
      have placed₄ := placed₃.follow follows₄ fun i same => same ▸ later
      cases outcome with
      | some x => exact safe_pure follows₄.sound ⟨placed₄, gives⟩
      | none => exact (whileLoop_safe fuel calls follows₄.sound placed₄ tested admitted).open
    next => exact safe_pure follows₂.sound ⟨placed₂, id⟩
termination_by fuel
decreasing_by all_goals omega
end

end Run

end Primer
