import Primer.Proofs.Check.Judgement
import Primer.Proofs.Outcome

/-!
# What a passed check has settled

**The law** (`source_sound`): a program that passes the check is settled, in the sense of
`Primer.Proofs.Check.Judgement`, in a context that describes the scope it was checked in. Along the way the
space of the check only grows: a statement adds variables to the frame of its own scope, and no other frame
that was there changes.

The laws are proved along the recursion of the check. Each assumes a context that describes the space, and
gives one that describes the space the check left.
-/

namespace Primer

namespace Check

/-! ## Types -/

theorem accepts_of_require {wanted given : Ty} {offset : Nat} (passed : wanted.require given offset = .ok ()) :
    wanted.accepts given := by
  unfold Ty.require at passed
  split at passed
  next accepted => exact accepted
  next => cases passed

theorem eq_boolean_of_accepts {t : Ty} (accepted : Ty.boolean.accepts t) : t = .boolean := by
  cases t <;> simp_all [Ty.accepts]

theorem operates_of_operationType {op : Operator} {left right t : Ty} {leftOffset rightOffset offset : Nat}
    (passed : operationType op left right leftOffset rightOffset offset = .ok t) :
    Operates op left right t := by
  have logical : op ∈ [.and, .or] →
      (do
        Ty.boolean.require left leftOffset
        Ty.boolean.require right rightOffset
        return .boolean : Except CheckError Ty) = .ok t → Operates op left right t := by
    intro listed passed
    obtain ⟨⟨⟩, first, passed⟩ := Except.bind_eq_ok_iff.mp passed
    obtain ⟨⟨⟩, second, passed⟩ := Except.bind_eq_ok_iff.mp passed
    cases passed
    rw [eq_boolean_of_accepts (accepts_of_require first), eq_boolean_of_accepts (accepts_of_require second)]
    exact .logical listed
  have comparison : op ∈ [.lt, .le, .gt, .ge, .eq, .ne] →
      (do
        Ty.comparable.require left leftOffset
        Ty.comparable.require right rightOffset
        if left = right then return .boolean
        else throw (.complaint (.incomparable left right) offset) : Except CheckError Ty) = .ok t →
      Operates op left right t := by
    intro listed passed
    obtain ⟨⟨⟩, first, passed⟩ := Except.bind_eq_ok_iff.mp passed
    obtain ⟨⟨⟩, -, passed⟩ := Except.bind_eq_ok_iff.mp passed
    split at passed
    next same =>
      cases passed
      rw [← same]
      exact .comparison listed (accepts_of_require first)
    next => cases passed
  have arithmetic : op ∈ [.add, .sub, .mul, .div] →
      (if op = .add ∧ (left = .string ∨ right = .string) then .ok .string
      else if (left = .integer ∨ left = .decimal) ∧ right = left then .ok left
      else .error (.complaint (.badOperands op.symbol left right) offset) : Except CheckError Ty) = .ok t →
      Operates op left right t := by
    intro listed passed
    split at passed
    next text =>
      cases passed
      rw [text.1]
      exact .join text.2
    next =>
    split at passed
    next numbers =>
      cases passed
      rw [numbers.2]
      exact .arithmetic listed numbers.1
    next => cases passed
  cases op with
  | and | or => exact logical (by simp) passed
  | lt | le | gt | ge | eq | ne => exact comparison (by simp) passed
  | add | sub | mul | div => exact arithmetic (by simp) passed
  | other symbol => cases passed

/-- Arguments that pass are accepted one by one. -/
theorem accepted_of_requireAll {args : List Expr} {params types : List Ty}
    (passed : requireAll args params types = .ok ()) (sameArgs : args.length = types.length)
    (sameParams : params.length = types.length) :
    List.Forall₂ (fun wanted given => wanted.accepts given) params types := by
  induction types generalizing args params with
  | nil =>
    obtain rfl := List.eq_nil_of_length_eq_zero sameParams
    exact .nil
  | cons given types ih =>
    obtain ⟨arg, args, rfl⟩ := List.exists_cons_of_length_eq_add_one sameArgs
    obtain ⟨wanted, params, rfl⟩ := List.exists_cons_of_length_eq_add_one sameParams
    rw [requireAll] at passed
    obtain ⟨⟨⟩, first, passed⟩ := Except.bind_eq_ok_iff.mp passed
    exact .cons (accepts_of_require first) (ih passed (by simpa using sameArgs) (by simpa using sameParams))

/-! ## Expressions -/

theorem settleType_ok {phrase : SlottedPhrase} {slot : Option Ty} {t t' : Ty} {tree : Option Ty → Expr} {e : Expr}
    (passed : settleType phrase slot t tree = (e, .ok t')) : e = tree (some t) ∧ t' = t := by
  cases slot with
  | some _ => cases passed
  | none =>
    cases passed
    exact ⟨rfl, rfl⟩

theorem settleVariable_ok {binding : Option Variable} {type : Option Ty} {v : Variable} {t : Ty}
    {tree : Option Variable → Option Ty → Expr} {e : Expr}
    (passed : settleVariable binding type v tree = (e, .ok t)) :
    e = tree (some v) (some v.type) ∧ t = v.type := by
  cases binding with
  | some _ => cases passed
  | none => exact settleType_ok passed

theorem settleFunction_ok {callee : Option Function} {type : Option Ty} {f : Function} {t : Ty}
    {tree : Option Function → Option Ty → Expr} {e : Expr}
    (passed : settleFunction callee type f tree = (e, .ok t)) :
    e = tree (some f) (some f.result) ∧ t = f.result := by
  cases callee with
  | some _ => cases passed
  | none => exact settleType_ok passed

/-- That names mean in a scope what a context says. -/
structure Resolves (c : Context) (space : Space) (scope : ScopeId) : Prop where
  names : ∀ name, space.lookupVariable? scope name = c.variableOf? name
  calls : ∀ name arity, space.lookupFunction? scope name arity = c.functionOf? name arity

theorem type?_of_types {c : Context} {e : Expr} {t : Ty} (typed : c.Types e t) : e.type? = some t := by
  cases typed <;> rfl

mutual
theorem expr_sound {c : Context} {space : Space} {scope : ScopeId} (resolves : Resolves c space scope) :
    (e : Expr) → {e' : Expr} → {t : Ty} → expr c.catalog space scope e = (e', .ok t) →
      (c.strict → e'.Exact) → c.Types e' t
  | .literal value offset type, e', t, passed, exact => by
    rw [expr] at passed
    split at passed
    next => cases passed
    next t' typed =>
      obtain ⟨rfl, rfl⟩ := settleType_ok passed
      exact .literal typed
  | .group inner offset type, e', t, passed, exact => by
    rw [expr] at passed
    split at passed
    next =>
      split at passed
      next => cases passed
      next inner' t' checked =>
        obtain ⟨rfl, rfl⟩ := settleType_ok passed
        exact .group (expr_sound resolves inner checked fun strict part mem =>
          exact strict part (by simp [Expr.parts, mem]))
    next => cases passed
  | .binary op left right offset type, e', t, passed, exact => by
    rw [expr] at passed
    split at passed
    next => cases passed
    next left' l checkedLeft =>
      split at passed
      next => cases passed
      next right' r checkedRight =>
        split at passed
        next => cases passed
        next t' operated =>
          obtain ⟨rfl, rfl⟩ := settleType_ok passed
          have first := expr_sound resolves left checkedLeft fun strict part mem =>
            exact strict part (by simp [Expr.parts, mem])
          have second := expr_sound resolves right checkedRight fun strict part mem =>
            exact strict part (by simp [Expr.parts, mem])
          refine .binary first second (operates_of_operationType operated) fun strict isOrder loose => ?_
          rw [loose] at first
          exact exact strict _ (Expr.mem_parts_self _) (by simp [Expr.comparesLoosely, isOrder, type?_of_types first])
  | .ref name offset binding type, e', t, passed, exact => by
    rw [expr, resolves.names] at passed
    split at passed
    next => cases passed
    next v found =>
      obtain ⟨rfl, rfl⟩ := settleVariable_ok passed
      exact .ref found
  | .field receiver name offset binding type, e', t, passed, exact => by
    rw [expr] at passed
    split at passed
    next => cases passed
    next receiver' r checked =>
      split at passed
      next => cases passed
      next v found =>
        obtain ⟨rfl, rfl⟩ := settleVariable_ok passed
        refine .field (expr_sound resolves receiver checked fun strict part mem => ?_) found
        exact exact strict part (by simp [Expr.parts, mem])
  | .call name args offset callee type, e', t, passed, exact => by
    rw [expr] at passed
    split at passed
    next => cases passed
    next args' types checked =>
      split at passed
      next => cases passed
      next f found =>
        split at passed
        next => cases passed
        next required =>
          obtain ⟨rfl, rfl⟩ := settleFunction_ok passed
          have given := exprs_sound resolves args checked fun strict part mem =>
            exact strict part (by simp [Expr.parts, mem])
          have arity := (Space.key_of_lookupFunction? found).2
          rw [resolves.calls] at found
          exact .call given found (accepted_of_requireAll required given.length_eq arity)
  | .send receiver name args offset callee type, e', t, passed, exact => by
    rw [expr] at passed
    split at passed
    next => cases passed
    next args' types checkedArgs =>
      split at passed
      next => cases passed
      next receiver' r checked =>
        split at passed
        next => cases passed
        next f found =>
          split at passed
          next => cases passed
          next required =>
            obtain ⟨rfl, rfl⟩ := settleFunction_ok passed
            have given := exprs_sound resolves args checkedArgs fun strict part mem =>
              exact strict part (by simp [Expr.parts, mem])
            have object := expr_sound resolves receiver checked fun strict part mem =>
              exact strict part (by simp [Expr.parts, mem])
            exact .send given object found
  | .unknown offset, e', t, passed, exact => by
    rw [expr] at passed
    cases passed

theorem exprs_sound {c : Context} {space : Space} {scope : ScopeId} (resolves : Resolves c space scope) :
    (es : List Expr) → {es' : List Expr} → {ts : List Ty} → exprs c.catalog space scope es = (es', .ok ts) →
      (c.strict → ∀ part ∈ Expr.partsAll es', ¬ part.comparesLoosely) → c.TypesAll es' ts
  | [], es', ts, passed, exact => by
    rw [exprs] at passed
    cases passed
    exact .nil
  | e :: es, es', ts, passed, exact => by
    rw [exprs] at passed
    split at passed
    next => cases passed
    next e' t first =>
      split at passed
      next => cases passed
      next es' ts others =>
        cases passed
        refine .cons (expr_sound resolves e first ?_) (exprs_sound resolves es others ?_)
        · exact fun strict part mem => exact strict part (by simp [Expr.partsAll, mem])
        · exact fun strict part mem => exact strict part (by simp [Expr.partsAll, mem])
end

/-! ## Contexts that describe a scope -/

/-- That a context describes a scope inside the global scope `g` of a program, as the check sees it. -/
structure Describes (c : Context) (s : Space) (g scope : ScopeId) : Prop where
  inside : s.Inside Eq g scope c.frames
  global : ∃ f, s.frame? g = some f ∧ f.funs = c.funs
  outerNames : ∀ name, ((s.parent? g).bind fun p => s.lookupVariable? p name) = c.outerVariable? name
  outerCalls : ∀ name arity,
    ((s.parent? g).bind fun p => s.lookupFunction? p name arity) = c.outerFunction? name arity

namespace Describes

variable {c : Context} {s s' : Space} {g scope : ScopeId}

theorem resolves (describes : Describes c s g scope) : Resolves c s scope where
  names name := by
    have found := describes.inside.lookupVariable?_cases (fun _ _ same => congrArg _ same) name
    unfold Context.variableOf?
    cases picked : Space.pickVariable? c.frames name with
    | some v =>
      rw [picked] at found
      obtain ⟨d, found, rfl⟩ := found
      exact found
    | none =>
      rw [picked] at found
      rw [found, Option.none_or]
      exact describes.outerNames name
  calls name arity := by
    obtain ⟨f, found, funs⟩ := describes.global
    have outer := describes.outerCalls name arity
    rw [describes.inside.under.lookupFunction?_eq, Space.lookupFunction?_of_frame? found, outer,
      Context.functionOf?, ← funs]
    rfl

/-- What a context says around a program stays true when only frames inside it are open. -/
theorem move {opened : ScopeId → Prop} {scope' : ScopeId} {frames : List (List Variable)}
    (describes : Describes c s g scope) (grows : s.Grows opened s') (within : ∀ i, opened i → g ≤ i)
    (inside : s'.Inside Eq g scope' frames) : Describes { c with frames } s' g scope' := by
  obtain ⟨f, found, funs⟩ := describes.global
  obtain ⟨f', found', parent, funs'⟩ := grows.exists_frame found
  have outer := fun {α : Type} => Space.around_congr (α := α) found found' parent fun i lt =>
    grows.frame?_eq_of_lt within found lt
  exact {
    inside
    global := ⟨f', found', funs'.trans funs⟩
    outerNames := fun name => (outer _).trans (describes.outerNames name)
    outerCalls := fun name arity => (outer _).trans (describes.outerCalls name arity) }

theorem of_grows {opened : ScopeId → Prop} (describes : Describes c s g scope) (grows : s.Grows opened s')
    (later : ∀ i, opened i → scope < i) : Describes c s' g scope :=
  describes.move grows (fun i opened => Nat.le_trans describes.inside.global_le (Nat.le_of_lt (later i opened)))
    (describes.inside.of_grows grows later)

theorem child (describes : Describes c s g scope) :
    Describes (c.enter []) (s.child scope).1 g s.frames.size :=
  describes.move (.of_child (.refl _ _)) (fun _ => False.elim) describes.inside.child

theorem extend_nil (describes : Describes c s g scope) : c.extend [] = c :=
  Context.extend_nil describes.inside

/-- A declared variable is new to its scope, and the context with it describes the scope. -/
theorem declareVariable {name : String} {type : Ty} {v : Variable} (describes : Describes c s g scope)
    (declared : s.declareVariable? scope name type = some (s', v)) :
    v.name = name ∧ v.type = type ∧ c.Free name ∧ Describes (c.extend [v]) s' g scope ∧
      s.Grows (· = scope) s' := by
  obtain ⟨vs, frames, shape⟩ := describes.inside.exists_cons
  have inside := describes.inside
  rw [shape] at inside
  have grows := Space.Grows.declareVariable declared
  simp only [Space.declareVariable?, Space.defineVariable?] at declared
  split at declared
  next => cases declared
  next new =>
    cases declared
    have numbered : s.Grows (fun _ => False) (s.newVariable name type).1 := .newVariable s name type none
    have kept := inside.of_grows numbered fun _ => False.elim
    refine ⟨rfl, rfl, ?_, ?_, grows⟩
    · intro v mem same
      rw [shape, List.headD_cons] at mem
      apply new
      change (s.newVariable name type).1.holdsVariable scope name = true
      rw [kept.holdsVariable_eq (fun _ _ same => congrArg _ same), List.any_eq_true]
      exact ⟨v, mem, by simpa using same⟩
    · have described := describes.move grows (fun i same => same ▸ describes.inside.global_le)
        (kept.addVariable rfl)
      simpa only [Context.extend, shape, List.headD_cons, List.tail_cons, List.singleton_append] using described

end Describes

/-! ## Statements -/

theorem condition_sound {c : Context} {space : Space} {scope : ScopeId} (resolves : Resolves c space scope)
    {e e' : Expr} (passed : condition c.catalog space scope e = (e', .ok ())) (exact : c.strict → e'.Exact) :
    c.Types e' .boolean := by
  unfold condition at passed
  split at passed
  next => cases passed
  next e'' given checked =>
    simp only [Prod.mk.injEq] at passed
    obtain ⟨rfl, required⟩ := passed
    have typed := expr_sound resolves e checked exact
    rwa [eq_boolean_of_accepts (accepts_of_require required)] at typed

theorem bindDeclaration_sound {c : Context} {space space' : Space} {g scope : ScopeId} {name : String}
    {typeName : Option String} {initializer : Option Expr} {type : Ty} {offset : Nat} {binding : Option Variable}
    {s' : Stmt} (describes : Describes c space g scope)
    (typed : ∀ e, initializer = some e → (c.strict → e.Exact) → c.Types e type)
    (passed : bindDeclaration space scope name type offset binding
      (.declaration name typeName initializer offset ·) = ⟨space', s', .ok ()⟩)
    (proper : c.strict → ∀ p ∈ s'.parts, p.Proper c.result) :
    ∃ vs, c.Admits s' vs ∧ Describes (c.extend vs) space' g scope ∧ space.Grows (· = scope) space' := by
  unfold bindDeclaration at passed
  split at passed
  next => cases passed
  next space'' v declared =>
    obtain ⟨rfl, rfl, free, described, grows⟩ := describes.declareVariable declared
    cases binding with
    | some _ => cases passed
    | none =>
      cases passed
      have whole := fun strict => proper strict _ (Stmt.mem_parts_self _)
      refine ⟨[v], .declaration free (fun e same => typed e same ?_) fun strict => ?_, described, grows⟩
      · exact fun strict => (whole strict).exact e (by simp [Stmt.exprs, same])
      · rintro rfl
        exact (whole strict).set rfl

theorem declaration_sound {c : Context} {space space' : Space} {g scope : ScopeId} {name : String}
    {typeName : Option String} {initializer : Option Expr} {offset : Nat} {binding : Option Variable} {s' : Stmt}
    (describes : Describes c space g scope)
    (passed : declaration c.catalog space scope name typeName initializer offset binding = ⟨space', s', .ok ()⟩)
    (proper : c.strict → ∀ p ∈ s'.parts, p.Proper c.result) :
    ∃ vs, c.Admits s' vs ∧ Describes (c.extend vs) space' g scope ∧ space.Grows (· = scope) space' := by
  unfold declaration at passed
  cases initializer with
  | none =>
    dsimp only at passed
    split at passed
    next => cases passed
    next => cases passed
    next type declared => exact bindDeclaration_sound describes (fun e same => by cases same) passed proper
  | some value =>
    dsimp only at passed
    split at passed
    next => cases passed
    next value' given checked =>
      split at passed
      next => cases passed
      next => cases passed
      next type declared =>
        have same : type = given := by
          unfold declaredType at declared
          cases typeName with
          | none =>
            cases declared
            rfl
          | some wanted =>
            obtain ⟨_, -, declared⟩ := Except.bind_eq_ok_iff.mp (Option.some.inj declared)
            obtain ⟨⟨⟩, -, declared⟩ := Except.bind_eq_ok_iff.mp declared
            exact (Except.ok.inj declared).symm
        refine bindDeclaration_sound describes (fun e initial exact => ?_) passed proper
        cases initial
        rw [same]
        exact expr_sound describes.resolves value checked exact

/-- A name stays a name and a field stays a field. -/
theorem isAccess_expr {catalog : Catalog} {space : Space} {scope : ScopeId} {e e' : Expr} {t : Ty}
    (passed : expr catalog space scope e = (e', .ok t)) (access : isAccess e) : isAccess e' := by
  cases e with
  | ref =>
    rw [expr] at passed
    split at passed
    next => cases passed
    next =>
      rw [(settleVariable_ok passed).1]
      rfl
  | field =>
    rw [expr] at passed
    split at passed
    next => cases passed
    next =>
      split at passed
      next => cases passed
      next =>
        rw [(settleVariable_ok passed).1]
        rfl
  | _ => cases access

theorem assignment_sound {c : Context} {space space' : Space} {scope : ScopeId} {target value : Expr}
    {offset : Nat} {s' : Stmt} (resolves : Resolves c space scope)
    (passed : assignment c.catalog space scope target value offset = ⟨space', s', .ok ()⟩)
    (proper : c.strict → ∀ p ∈ s'.parts, p.Proper c.result) : c.Admits s' [] ∧ space' = space := by
  unfold assignment at passed
  split at passed
  next isAccess =>
    split at passed
    next => cases passed
    next target' wanted checkedTarget =>
      split at passed
      next => cases passed
      next value' given checkedValue =>
        simp only [Checked.mk.injEq] at passed
        obtain ⟨rfl, rfl, required⟩ := passed
        have exact := fun strict => (proper strict _ (Stmt.mem_parts_self _)).exact
        have left := expr_sound resolves target checkedTarget fun strict => exact strict target' (by simp [Stmt.exprs])
        have right := expr_sound resolves value checkedValue fun strict => exact strict value' (by simp [Stmt.exprs])
        exact ⟨.assignment (isAccess_expr checkedTarget isAccess) left right (accepts_of_require required), rfl⟩
  next => cases passed

mutual
theorem stmt_sound {c : Context} {g scope : ScopeId} {space : Space} (describes : Describes c space g scope) :
    (s : Stmt) → {space' : Space} → {s' : Stmt} → stmt c.catalog space scope s = ⟨space', s', .ok ()⟩ →
      (c.strict → ∀ p ∈ s'.parts, p.Proper c.result) →
      ∃ vs, c.Admits s' vs ∧ Describes (c.extend vs) space' g scope ∧ space.Grows (· = scope) space'
  | .expression e offset, space', s', passed, proper => by
    rw [stmt] at passed
    split at passed
    next =>
      split at passed
      next => cases passed
      next e' t checked =>
        cases passed
        have typed := expr_sound describes.resolves e checked fun strict =>
          (proper strict _ (Stmt.mem_parts_self _)).exact e' (by simp [Stmt.exprs])
        exact ⟨[], .expression typed, describes.extend_nil.symm ▸ describes, .refl _ _⟩
    next => cases passed
  | .declaration name typeName initializer offset binding, space', s', passed, proper => by
    rw [stmt] at passed
    exact declaration_sound describes passed proper
  | .assignment target value offset, space', s', passed, proper => by
    rw [stmt] at passed
    obtain ⟨admits, rfl⟩ := assignment_sound describes.resolves passed proper
    exact ⟨[], admits, describes.extend_nil.symm ▸ describes, .refl _ _⟩
  | .conditional condition thenPart elsePart offset, space', s', passed, proper => by
    rw [stmt] at passed
    split at passed
    next => cases passed
    next condition' checked =>
      split at passed
      next => cases passed
      next =>
        dsimp only at passed
        split at passed
        next => cases passed
        next space₁ thenPart' first =>
          cases second : block c.catalog (space₁.child scope).1 (space₁.child scope).2 elsePart with
          | mk space₂ elsePart' result =>
            rw [second] at passed
            cases passed
            rw [Space.child_snd] at first second
            obtain ⟨admitsThen, grows₁⟩ := block_sound describes.child thenPart first fun strict p mem =>
              proper strict p (by simp [Stmt.parts, mem])
            have between := describes.of_grows (.of_child grows₁) fun _ => False.elim
            obtain ⟨admitsElse, grows₂⟩ := block_sound between.child elsePart second fun strict p mem =>
              proper strict p (by simp [Stmt.parts, mem])
            have after := between.of_grows (.of_child grows₂) fun _ => False.elim
            have tested := condition_sound describes.resolves checked fun strict =>
              (proper strict _ (Stmt.mem_parts_self _)).exact condition' (by simp [Stmt.exprs])
            refine ⟨[], .conditional tested admitsThen admitsElse, ?_, ?_⟩
            · exact after.extend_nil.symm ▸ after
            · exact ((Space.Grows.of_child grows₁).trans (.of_child grows₂)).mono fun _ => False.elim
  | .forEach name iterable body offset, space', s', passed, proper => by
    rw [stmt] at passed
    split at passed
    next => cases passed
    next iterable' given checked =>
      split at passed
      next => cases passed
      next isIterable =>
        split at passed
        next => cases passed
        next =>
          dsimp only at passed
          split at passed
          next => cases passed
          next space₁ v declared =>
            cases inner : block c.catalog space₁ (space.child scope).2 body with
            | mk space₂ body' result =>
              rw [inner] at passed
              cases passed
              rw [Space.child_snd] at declared inner
              obtain ⟨rfl, counts, -, described, grows₁⟩ := describes.child.declareVariable declared
              obtain ⟨admits, grows₂⟩ := block_sound described body inner fun strict p mem =>
                proper strict p (by simp [Stmt.parts, mem])
              have typed := expr_sound describes.resolves iterable checked fun strict =>
                (proper strict _ (Stmt.mem_parts_self _)).exact iterable' (by simp [Stmt.exprs])
              rw [not_not.mp isIterable] at typed
              have grows := Space.Grows.of_child (grows₁.trans grows₂)
              have after := describes.of_grows grows fun _ => False.elim
              refine ⟨[], .forEach typed counts admits, ?_, grows.mono fun _ => False.elim⟩
              exact after.extend_nil.symm ▸ after
  | .whileLoop condition body offset, space', s', passed, proper => by
    rw [stmt] at passed
    split at passed
    next => cases passed
    next condition' checked =>
      dsimp only at passed
      cases inner : block c.catalog (space.child scope).1 (space.child scope).2 body with
      | mk space₁ body' result =>
        rw [inner] at passed
        cases passed
        rw [Space.child_snd] at inner
        obtain ⟨admits, grows⟩ := block_sound describes.child body inner fun strict p mem =>
          proper strict p (by simp [Stmt.parts, mem])
        have tested := condition_sound describes.resolves checked fun strict =>
          (proper strict _ (Stmt.mem_parts_self _)).exact condition' (by simp [Stmt.exprs])
        have after := describes.of_grows (.of_child grows) fun _ => False.elim
        refine ⟨[], .whileLoop tested admits, ?_, (Space.Grows.of_child grows).mono fun _ => False.elim⟩
        exact after.extend_nil.symm ▸ after
  | .ret value offset, space', s', passed, proper => by
    rw [stmt] at passed
    split at passed
    next => cases passed
    next value' t checked =>
      cases passed
      have whole := fun strict => proper strict _ (Stmt.mem_parts_self _)
      have typed := expr_sound describes.resolves value checked fun strict =>
        (whole strict).exact value' (by simp [Stmt.exprs])
      refine ⟨[], .ret typed fun strict notNil notAny => ?_, describes.extend_nil.symm ▸ describes, .refl _ _⟩
      simpa [Stmt.returnsOther, type?_of_types typed] using (whole strict).returns notNil notAny
  | .unknown offset, space', s', passed, proper => by
    rw [stmt] at passed
    cases passed

theorem block_sound {c : Context} {g scope : ScopeId} {space : Space} (describes : Describes c space g scope) :
    (ss : List Stmt) → {space' : Space} → {ss' : List Stmt} →
      block c.catalog space scope ss = ⟨space', ss', .ok ()⟩ →
      (c.strict → ∀ p ∈ Stmt.partsAll ss', p.Proper c.result) →
      c.AdmitsAll ss' ∧ space.Grows (· = scope) space'
  | [], space', ss', passed, proper => by
    rw [block] at passed
    cases passed
    exact ⟨.nil, .refl _ _⟩
  | s :: ss, space', ss', passed, proper => by
    rw [block] at passed
    split at passed
    next => cases passed
    next between s' first =>
      cases others : block c.catalog between scope ss with
      | mk last rest result =>
        rw [others] at passed
        cases passed
        obtain ⟨vs, admits, described, grows⟩ := stmt_sound describes s first fun strict p mem =>
          proper strict p (by simp [Stmt.partsAll, mem])
        obtain ⟨later, grows'⟩ := block_sound described ss others fun strict p mem =>
          proper strict p (by simp [Stmt.partsAll, mem])
        exact ⟨.cons admits later, grows.trans grows'⟩
end

/-! ## Fields -/

theorem initializer_sound {c : Context} {space : Space} {scope : ScopeId} (resolves : Resolves c space scope)
    {wanted : Ty} {value value' : Option Expr}
    (passed : initializer c.catalog space scope wanted value = (value', .ok ()))
    (exact : c.strict → ∀ e, value' = some e → e.Exact) :
    ∀ e, value' = some e → ∃ t, c.Types e t ∧ wanted.accepts t := by
  cases value with
  | none =>
    cases passed
    intro e same
    cases same
  | some e =>
    rw [initializer] at passed
    split at passed
    next => cases passed
    next e' given checked =>
      simp only [Prod.mk.injEq] at passed
      obtain ⟨rfl, required⟩ := passed
      rintro _ ⟨⟩
      have typed := expr_sound resolves e checked fun strict => exact strict e' rfl
      exact ⟨given, typed, accepts_of_require required⟩

theorem field_sound {c : Context} {space space' : Space} {g : ScopeId} {vs : List Variable} {f f' : Field}
    (describes : Describes { c with frames := [vs] } space g g)
    (passed : field c.catalog space g f = ⟨space', f', .ok ()⟩)
    (exact : c.strict → ∀ e, f'.initializer = some e → e.Exact) :
    ∃ v, f'.binding = some v ∧ v.name = f'.name ∧ (∀ u ∈ vs, u.name ≠ v.name) ∧
      (∀ e, f'.initializer = some e → ∃ t, Context.Types { c with frames := [vs] } e t ∧ v.type.accepts t) ∧
      Describes { c with frames := [v :: vs] } space' g g ∧ space.Grows (· = g) space' := by
  unfold field at passed
  split at passed
  next => cases passed
  next wanted named =>
    split at passed
    next => cases passed
    next value checked =>
      dsimp only at passed
      split at passed
      next => cases passed
      next space₁ v declared =>
        obtain ⟨sameName, rfl, free, described, grows⟩ := describes.declareVariable declared
        cases settled : f.binding with
        | some _ =>
          rw [settled] at passed
          cases passed
        | none =>
          rw [settled] at passed
          cases passed
          have typed := initializer_sound describes.resolves checked exact
          refine ⟨v, rfl, sameName, fun u mem => sameName.symm ▸ free u mem, typed, ?_, grows⟩
          exact described

theorem fields_sound {c : Context} {g : ScopeId} {space space' : Space} {vs : List Variable}
    {fs fs' : List Field} (describes : Describes { c with frames := [vs] } space g g)
    (passed : each (fun space f => field c.catalog space g f) space fs = ⟨space', fs', .ok ()⟩)
    (strict : c.strict → ∀ f ∈ fs', f.initializer ≠ none ∧ ∀ e, f.initializer = some e → e.Exact) :
    ∃ vs', c.AdmitsFields vs fs' vs' ∧ Describes { c with frames := [vs'] } space' g g := by
  induction fs generalizing space vs fs' with
  | nil =>
    cases passed
    exact ⟨vs, .nil, describes⟩
  | cons f fs ih =>
    rw [each] at passed
    split at passed
    next => cases passed
    next between f' first =>
      cases others : each (fun space f => field c.catalog space g f) between fs with
      | mk last rest result =>
        rw [others] at passed
        cases passed
        have now := fun isStrict => strict isStrict f' List.mem_cons_self
        obtain ⟨v, settled, named, free, typed, described, grows⟩ :=
          field_sound describes first fun isStrict => (now isStrict).2
        obtain ⟨vs', admits, described'⟩ := ih described others fun isStrict g mem =>
          strict isStrict g (List.mem_cons_of_mem _ mem)
        exact ⟨vs', .cons settled named free typed (fun isStrict => (now isStrict).1) admits, described'⟩

/-! ## Methods -/

theorem signature_params {m : Method} {params : List Ty} {result : Ty}
    (passed : signature m = .ok (params, result)) : params.length = m.params.length := by
  obtain ⟨types, named, passed⟩ := Except.bind_eq_ok_iff.mp passed
  have same : params = types := by
    dsimp only at passed
    split at passed
    · cases passed
      rfl
    · obtain ⟨_, -, passed⟩ := Except.bind_eq_ok_iff.mp passed
      cases passed
      rfl
  rw [same]
  exact Except.length_of_mapM_eq_ok named

/-- A declared function is new to the global scope, and the context with it describes that scope. -/
theorem Describes.declareFunction {c : Context} {s s' : Space} {g : ScopeId} {name : String} {params : List Ty}
    {result : Ty} {f : Function} (describes : Describes c s g g)
    (declared : s.declareFunction? g name params result = some (s', f)) :
    f.name = name ∧ f.params = params ∧ f.result = result ∧
      (∀ h ∈ c.funs, ¬ (h.name = f.name ∧ h.arity = f.arity)) ∧
      Describes { c with funs := f :: c.funs } s' g g := by
  obtain ⟨frame, found, funs⟩ := describes.global
  obtain ⟨rfl, rfl, rfl, declares⟩ := Space.declaresFunction_of_eq_some found declared
  have outer := fun {α : Type} => Space.around_congr (α := α) found declares.added rfl fun i lt =>
    declares.others i (Nat.ne_of_lt lt)
  refine ⟨rfl, rfl, rfl, ?_, ?_⟩
  · rintro h mem ⟨sameName, sameArity⟩
    have free := List.find?_eq_none.mp declares.free h (funs.symm ▸ mem)
    simp [sameName, sameArity] at free
  · obtain ⟨frame', vs, found', shape, bound⟩ := describes.inside.at_global
    rw [found] at found'
    cases found'
    refine ⟨?_, ⟨_, declares.added, by rw [funs]⟩, fun name => (outer _).trans (describes.outerNames name),
      fun name arity => (outer _).trans (describes.outerCalls name arity)⟩
    change Space.Inside Eq _ g g c.frames
    rw [shape]
    exact .global declares.added bound

theorem bindParams_sound {c : Context} {g scope : ScopeId} {space space' : Space} {offset : Nat}
    {pairs : List (String × Ty)} (describes : Describes c space g scope)
    (passed : bindParams space scope offset pairs = (space', .ok ())) :
    ∃ vs : List Variable, vs.reverse.map (fun v => (v.name, v.type)) = pairs ∧
      (pairs.map Prod.fst).Nodup ∧ (∀ name ∈ pairs.map Prod.fst, c.Free name) ∧
      Describes (c.extend vs) space' g scope ∧ space.Grows (· = scope) space' := by
  induction pairs generalizing c space with
  | nil =>
    cases passed
    exact ⟨[], rfl, .nil, by simp, describes.extend_nil.symm ▸ describes, .refl _ _⟩
  | cons pair pairs ih =>
    rw [bindParams] at passed
    split at passed
    next => cases passed
    next space₁ v declared =>
      obtain ⟨named, typed, free, described, grows⟩ := describes.declareVariable declared
      obtain ⟨vs, shape, distinct, allFree, described', grows'⟩ := ih described passed
      have apart : ∀ name ∈ pairs.map Prod.fst, v.name ≠ name ∧ c.Free name := by
        intro name mem
        obtain ⟨other, free⟩ := Context.free_extend.mp (allFree name mem)
        exact ⟨other v (.head _), free⟩
      refine ⟨vs ++ [v], ?_, ?_, ?_, c.extend_extend [v] vs ▸ described', grows.trans grows'⟩
      · rw [List.reverse_append, List.reverse_singleton, List.singleton_append, List.map_cons, shape, named, typed]
      · refine List.nodup_cons.mpr ⟨fun mem => ?_, distinct⟩
        exact (apart _ mem).1 named
      · exact List.forall_mem_cons.mpr ⟨free, fun name mem => (apart name mem).2⟩

/-- What strictness asks of a method that is settled with a function. -/
structure StrictMethod (m : Method) (f : Function) : Prop where
  proper : ∀ p ∈ Stmt.partsAll m.body, p.Proper f.result
  closed : f.result ≠ .nil → f.result ≠ .any → Stmt.closes m.body

theorem method_sound {c : Context} {g : ScopeId} {space space' : Space} {m m' : Method}
    (describes : Describes c space g g) (passed : method c.catalog space g m = ⟨space', m', .ok ()⟩)
    (strict : c.strict → ∀ f, m'.callee = some f → StrictMethod m' f) :
    ∃ f, Context.AdmitsMethod { c with funs := f :: c.funs } m' f ∧
      (∀ h ∈ c.funs, ¬ (h.name = f.name ∧ h.arity = f.arity)) ∧
      Describes { c with funs := f :: c.funs } space' g g := by
  unfold method at passed
  split at passed
  next => cases passed
  next params result signed =>
    split at passed
    next => cases passed
    next space₁ f declared =>
      obtain ⟨named, rfl, rfl, free, described⟩ := describes.declareFunction declared
      split at passed
      next => cases passed
      next unsettled =>
        unfold methodBody at passed
        dsimp only at passed
        split at passed
        next => cases passed
        next space₂ bound =>
          split at passed
          next => cases passed
          next space₃ body checked =>
            simp only [Checked.mk.injEq] at passed
            obtain ⟨rfl, rfl, -⟩ := passed
            rw [Space.child_snd] at bound checked
            have arity : f.params.length = m.params.length := signature_params signed
            have names : ((m.params.map Param.name).zip f.params).map Prod.fst = m.params.map Param.name :=
              List.map_fst_zip (Nat.le_of_eq (by rw [List.length_map, arity]))
            obtain ⟨vs, shape, distinct, -, described₂, grows₂⟩ := bindParams_sound described.child bound
            rw [names] at distinct
            rw [Context.extend_enter, List.append_nil] at described₂
            have whole := fun isStrict => strict isStrict f rfl
            have inBody : Describes ({ c with funs := f :: c.funs, result := f.result }.enter vs) space₂ g
                space₁.frames.size :=
              ⟨described₂.inside, described₂.global, described₂.outerNames, described₂.outerCalls⟩
            obtain ⟨admits, grows₃⟩ := block_sound inBody m.body checked fun isStrict => (whole isStrict).proper
            refine ⟨f, ⟨rfl, named, arity, distinct, ⟨vs, shape, admits⟩, fun isStrict => (whole isStrict).closed⟩,
              free, ?_⟩
            exact described.of_grows (.of_child (grows₂.trans grows₃)) fun _ => False.elim

theorem methods_sound {c : Context} {g : ScopeId} {space space' : Space} {fs : List Function}
    {ms ms' : List Method} (describes : Describes { c with funs := fs } space g g)
    (passed : each (fun space m => method c.catalog space g m) space ms = ⟨space', ms', .ok ()⟩)
    (strict : c.strict → ∀ m ∈ ms', ∀ f, m.callee = some f → StrictMethod m f) :
    ∃ fs', c.AdmitsMethods fs ms' fs' ∧ Describes { c with funs := fs' } space' g g := by
  induction ms generalizing space fs ms' with
  | nil =>
    cases passed
    exact ⟨fs, .nil, describes⟩
  | cons m ms ih =>
    rw [each] at passed
    split at passed
    next => cases passed
    next between m' first =>
      cases others : each (fun space m => method c.catalog space g m) between ms with
      | mk last rest result =>
        rw [others] at passed
        cases passed
        obtain ⟨f, admits, free, described⟩ := method_sound describes first fun isStrict =>
          strict isStrict m' List.mem_cons_self
        obtain ⟨fs', admits', described'⟩ := ih described others fun isStrict m mem =>
          strict isStrict m (List.mem_cons_of_mem _ mem)
        exact ⟨fs', .cons free admits admits', described'⟩

end Check

/-! ## Programs -/

/-- What is known at the start of a program in a new scope inside the given one. -/
def Context.start (catalog : Catalog) (space : Space) (outer : ScopeId) (strict : Prop) : Context where
  catalog := catalog
  outerVariable? := space.lookupVariable? outer
  outerFunction? := space.lookupFunction? outer
  funs := []
  frames := [[]]
  strict := strict

namespace Check

theorem describes_start (catalog : Catalog) (space : Space) (outer : ScopeId) (strict : Prop) :
    Describes (.start catalog space outer strict) (space.child outer).1 space.frames.size space.frames.size := by
  have around : ∀ {α : Type} (pick : Frame → Option α), ∃ f, (space.child outer).1.frame? space.frames.size = some f ∧
      f.vars = [] ∧ f.funs = [] ∧
      (((space.child outer).1.parent? space.frames.size).bind fun p => (space.child outer).1.findUp pick p) =
        space.findUp pick outer := by
    intro α pick
    cases found : space.frame? outer with
    | some f =>
      have frames := Space.frame?_child found
      have new := (frames space.frames.size).trans (if_pos rfl)
      refine ⟨_, new, rfl, rfl, ?_⟩
      rw [Space.parent?, new, Option.bind_some, Option.bind_some]
      apply Space.findUp_congr
      intro i le
      rw [frames, if_neg (Nat.ne_of_lt (Nat.lt_of_le_of_lt le (Space.frame?_lt found)))]
    | none =>
      have absent : ¬ outer < space.frames.size := Nat.not_lt_of_le (Space.frame?_eq_none.mp found)
      have new : (space.child outer).1.frame? space.frames.size = some { parent := none } := by
        unfold Space.child Space.root
        rw [dif_neg absent, Space.frame?_push, if_pos rfl]
      refine ⟨_, new, rfl, rfl, ?_⟩
      rw [Space.parent?, new, Space.findUp_eq, found]
      rfl
  obtain ⟨f, new, vars, funs, -⟩ := around fun _ => (none : Option Unit)
  have bound : List.Forall₂ Eq f.vars [] := by
    rw [vars]
    exact .nil
  refine ⟨.global new bound, ⟨f, new, funs⟩, fun name => ?_, fun name arity => ?_⟩
  · obtain ⟨-, -, -, -, same⟩ := around fun f => f.findVariable? name
    exact same
  · obtain ⟨-, -, -, -, same⟩ := around fun f => f.findFunction? name arity
    exact same

/-- What strictness asks of a program it asks of each of its methods. -/
theorem strictMethod_of_strict {s : Source} (strict : s.Strict) {m : Method} (mem : m ∈ s.methods) {f : Function}
    (settled : m.callee = some f) : StrictMethod m f where
  proper p part := {
    set := strict.variablesSet p (List.mem_flatMap.mpr ⟨m, mem, part⟩)
    exact := fun e inside q isPart => strict.exact q (List.mem_append_right _ (List.mem_flatMap.mpr
      ⟨p, List.mem_flatMap.mpr ⟨m, mem, part⟩, List.mem_flatMap.mpr ⟨e, inside, isPart⟩⟩))
    returns := fun notNil notAny => (strict.returns m mem f settled notNil notAny).1 p part }
  closed notNil notAny := (strict.returns m mem f settled notNil notAny).2

theorem source_sound {c : Context} {g : ScopeId} {needsMain : Bool} {space space' : Space} {s s' : Source}
    (describes : Describes c space g g) (noFrames : c.frames = [[]]) (noFuns : c.funs = [])
    (passed : source c.catalog needsMain space g s = ⟨space', s', .ok ()⟩) (strict : c.strict → s'.Strict) :
    ∃ vs fs, c.AdmitsSource s' vs fs ∧ Describes { c with frames := [vs], funs := fs } space' g g ∧
      (needsMain → ∃ main, { c with funs := fs }.functionOf? "main" 0 = some main) := by
  unfold source at passed
  split at passed
  next => cases passed
  next space₁ fields checkedFields =>
    split at passed
    next => cases passed
    next space₂ methods checkedMethods =>
      simp only [Checked.mk.injEq] at passed
      obtain ⟨rfl, rfl, hasMain⟩ := passed
      have atStart : Describes { { c with funs := [] } with frames := [[]] } space g g := by
        rw [← noFrames, ← noFuns]
        exact describes
      obtain ⟨vs, admitsFields, described⟩ := fields_sound atStart checkedFields fun isStrict f mem =>
        ⟨(strict isStrict).fieldsSet f mem, fun e same part isPart => (strict isStrict).exact part
          (List.mem_append_left _ (List.mem_flatMap.mpr ⟨f, mem, by simp [same, isPart]⟩))⟩
      obtain ⟨fs, admitsMethods, described'⟩ := methods_sound (c := { c with frames := [vs] }) described
        checkedMethods fun isStrict m mem f settled => strictMethod_of_strict (strict isStrict) mem settled
      refine ⟨vs, fs, ⟨admitsFields, admitsMethods⟩, described', fun needed => ?_⟩
      rw [if_pos needed, requireMain, described'.resolves.calls] at hasMain
      split at hasMain
      next => cases hasMain
      next main found => exact ⟨main, found⟩

/-- A program that passes the check is settled. -/
theorem checkSource_sound (strict : Prop) {catalog : Catalog} {needsMain : Bool} {space : Space} {outer : ScopeId}
    {s : Source} (passed : (checkSource catalog needsMain space outer s).result = .ok ())
    (isStrict : strict → (checkSource catalog needsMain space outer s).tree.Strict) :
    ∃ vs fs, (Context.start catalog space outer strict).AdmitsSource
        (checkSource catalog needsMain space outer s).tree vs fs ∧
      (needsMain → ∃ main, { Context.start catalog space outer strict with funs := fs }.functionOf? "main" 0 =
        some main) := by
  cases checked : checkSource catalog needsMain space outer s with
  | mk space' s' result =>
    rw [checked] at passed isStrict
    cases passed
    unfold checkSource at checked
    dsimp only at checked
    rw [Space.child_snd] at checked
    obtain ⟨vs, fs, admits, -, main⟩ :=
      source_sound (describes_start catalog space outer strict) rfl rfl checked isStrict
    exact ⟨vs, fs, admits, main⟩

end Check

end Primer
