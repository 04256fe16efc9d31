import Primer.Proofs.Check.Bare
import Primer.Proofs.Check.Frames

/-!
# A tree is checked once

The check settles the slots of a tree in a fixed order, and it does not settle a slot that is filled. The first slot
it comes to may lie deep in the initializer of the first field, and before that slot nothing is looked at but names,
which mean the same as long as the scopes around the program stay as they are.

**The law** (`checked_tree_is_refused`): a tree that passed the check is refused by the next one at the slot that was
settled first, and the tree is left as it is. That this is the slot the check comes to first is part of the law: in
any tree of the same form the check stops there if it is filled, and settles it if it is not.
-/

namespace Primer

/-- Where a slot is: the sort of its phrase, which of the slots of the phrase it is, and where the phrase stands. -/
structure SlotSite where
  phrase : SlottedPhrase
  slot : Slot
  offset : Nat
deriving DecidableEq

/-- The first slot in an expression that a check comes to, and whether it is filled. -/
def Expr.firstSlot? : Expr → Option (SlotSite × Bool)
  | .literal _ offset type => some (⟨.literal, .type, offset⟩, type.isSome)
  | .group inner _ _ => inner.firstSlot?
  | .binary _ left _ _ _ => left.firstSlot?
  | .ref _ offset binding _ => some (⟨.access, .binding, offset⟩, binding.isSome)
  | .field receiver _ _ _ _ => receiver.firstSlot?
  | .call _ [] offset callee _ => some (⟨.call, .callee, offset⟩, callee.isSome)
  | .call _ (arg :: _) _ _ _ => arg.firstSlot?
  | .send receiver _ [] _ _ _ => receiver.firstSlot?
  | .send _ _ (arg :: _) _ _ _ => arg.firstSlot?
  | .unknown _ => none
termination_by structural e => e

/-- The first slot of a field. -/
def Field.firstSlot? (f : Field) : Option (SlotSite × Bool) :=
  match f.initializer with
  | some e => e.firstSlot?
  | none => some (⟨.field, .binding, f.offset⟩, f.binding.isSome)

/-- The first slot of a method. -/
def Method.firstSlot? (m : Method) : Option (SlotSite × Bool) :=
  some (⟨.method, .callee, m.offset⟩, m.callee.isSome)

/-- The first slot of a program. -/
def Source.firstSlot? (s : Source) : Option (SlotSite × Bool) :=
  match s.fields with
  | f :: _ => f.firstSlot?
  | [] => s.methods.head?.bind Method.firstSlot?

/-! ## Bare trees -/

theorem Expr.firstSlot?_bare (e : Expr) : e.bare.firstSlot? = e.firstSlot?.map fun found => (found.1, false) := by
  cases e with
  | literal | ref | unknown => rfl
  | group inner => exact inner.firstSlot?_bare
  | binary _ left => exact left.firstSlot?_bare
  | field receiver => exact receiver.firstSlot?_bare
  | call name args =>
    cases args with
    | nil => rfl
    | cons arg => exact arg.firstSlot?_bare
  | send receiver name args =>
    cases args with
    | nil => exact receiver.firstSlot?_bare
    | cons arg => exact arg.firstSlot?_bare
termination_by structural e

theorem Field.firstSlot?_bare (f : Field) : f.bare.firstSlot? = f.firstSlot?.map fun found => (found.1, false) := by
  obtain ⟨name, typeName, initializer, offset, binding⟩ := f
  cases initializer with
  | none => rfl
  | some e => exact e.firstSlot?_bare

/-- The slots of a bare program are where they were, and empty. -/
theorem Source.firstSlot?_bare (s : Source) : s.bare.firstSlot? = s.firstSlot?.map fun found => (found.1, false) := by
  obtain ⟨fields, methods⟩ := s
  cases fields with
  | cons f => exact f.firstSlot?_bare
  | nil =>
    cases methods with
    | nil => rfl
    | cons => rfl

/-! ## Scopes in which names mean the same -/

namespace Space

/-- That names mean the same in two scopes. -/
structure Alike (space : Space) (scope : ScopeId) (space' : Space) (scope' : ScopeId) : Prop where
  names : ∀ name, space'.lookupVariable? scope' name = space.lookupVariable? scope name
  calls : ∀ name arity, space'.lookupFunction? scope' name arity = space.lookupFunction? scope name arity

/-- A new scope offers what the scope around it does. -/
theorem findUp_child {α : Type} {s : Space} {outer : ScopeId} {frame : Frame} {pick : Frame → Option α}
    (known : s.frame? outer = some frame) (empty : pick { parent := some outer } = none) :
    (s.child outer).1.findUp pick (s.child outer).2 = s.findUp pick outer := by
  rw [findUp_eq, child_snd, frame?_child known, if_pos rfl, Option.bind_some, empty, Option.none_or, Option.bind_some]
  apply findUp_congr
  intro i le
  rw [frame?_child known, if_neg (Nat.ne_of_lt (Nat.lt_of_le_of_lt le (frame?_lt known)))]

/-- What a scope offers stays the same as long as the frames that were there do. -/
theorem findUp_of_kept {α : Type} {s s' : Space} {outer : ScopeId} {frame : Frame} {pick : Frame → Option α}
    (known : s.frame? outer = some frame) (kept : ∀ i f, s.frame? i = some f → s'.frame? i = some f) :
    s'.findUp pick outer = s.findUp pick outer := by
  apply findUp_congr
  intro i le
  have there : i < s.frames.size := Nat.lt_of_le_of_lt le (frame?_lt known)
  have old : s.frame? i = some s.frames[i] := Array.getElem?_eq_getElem there
  rw [old]
  exact kept i _ old

/-- Names mean the same in new scopes of one scope, as long as the frames that were there stay as they are. -/
theorem alike_child {s s' : Space} {outer : ScopeId} {frame : Frame} (known : s.frame? outer = some frame)
    (kept : ∀ i f, s.frame? i = some f → s'.frame? i = some f) :
    Alike (s.child outer).1 (s.child outer).2 (s'.child outer).1 (s'.child outer).2 := by
  have known' := kept outer frame known
  constructor
  · intro name
    exact (findUp_child known' rfl).trans ((findUp_of_kept known kept).trans (findUp_child known rfl).symm)
  · intro name arity
    exact (findUp_child known' rfl).trans ((findUp_of_kept known kept).trans (findUp_child known rfl).symm)

end Space

namespace Check

/-! ## Coming to a slot -/

/-- That a check came to the first slot of a phrase before it found anything wrong: it stopped there if the slot is
filled, with the tree as it was, and settled it if it is not. -/
def ComesTo {τ α : Type} (first? : τ → Option (SlotSite × Bool)) (t t' : τ) (result : Except CheckError α) : Prop :=
  ∃ site filled, first? t = some (site, filled) ∧
    if filled then t' = t ∧ result = .error (.alreadySettled site.phrase site.slot)
    else first? t' = some (site, true)

namespace ComesTo

variable {τ υ α β : Type} {first? : τ → Option (SlotSite × Bool)} {whole? : υ → Option (SlotSite × Bool)}
  {p p' : τ} {t t' : υ}

/-- The first slot of a phrase is that of its first part, and the check of the phrase stops where that of the part
does. -/
theorem stops {problem : CheckError} (inside : ComesTo first? p p' (.error problem : Except CheckError α))
    (whole? : υ → Option (SlotSite × Bool)) (phrase : τ → υ) (begins : ∀ part, whole? (phrase part) = first? part) :
    ComesTo whole? (phrase p) (phrase p') (.error problem : Except CheckError β) := by
  obtain ⟨site, filled, found, comes⟩ := inside
  refine ⟨site, filled, (begins p).trans found, ?_⟩
  cases filled with
  | true =>
    obtain ⟨unchanged, refused⟩ := comes
    exact ⟨congrArg phrase unchanged, congrArg _ (Except.error.inj refused)⟩
  | false => exact (begins p').trans comes

/-- If the check of the first part went through, its first slot is settled by now, however the check goes on. -/
theorem goesOn {a : α} (inside : ComesTo first? p p' (.ok a)) (begins : whole? t = first? p)
    (ended : whole? t' = first? p') (result : Except CheckError β) : ComesTo whole? t t' result := by
  obtain ⟨site, filled, found, comes⟩ := inside
  refine ⟨site, filled, begins.trans found, ?_⟩
  cases filled with
  | true => cases comes.2
  | false => exact ended.trans comes

end ComesTo

/-! ## Expressions -/

section Settling

variable {first? : Expr → Option (SlotSite × Bool)}

/-- Settling a type changes no slot but that one. -/
theorem settleType_tree {found : Option (SlotSite × Bool)} (phrase : SlottedPhrase) (slot : Option Ty) (t : Ty)
    {tree : Option Ty → Expr} (told : ∀ type, first? (tree type) = found) :
    first? (settleType phrase slot t tree).1 = found := by
  cases slot with
  | some _ => exact told _
  | none => exact told _

theorem settleVariable_tree {found : Option (SlotSite × Bool)} (binding : Option Variable) (type : Option Ty)
    (v : Variable) {tree : Option Variable → Option Ty → Expr}
    (told : ∀ binding type, first? (tree binding type) = found) :
    first? (settleVariable binding type v tree).1 = found := by
  cases binding with
  | some _ => exact told _ _
  | none => exact settleType_tree .access type v.type (told _)

theorem settleFunction_tree {found : Option (SlotSite × Bool)} (callee : Option Function) (type : Option Ty)
    (f : Function) {tree : Option Function → Option Ty → Expr}
    (told : ∀ callee type, first? (tree callee type) = found) :
    first? (settleFunction callee type f tree).1 = found := by
  cases callee with
  | some _ => exact told _ _
  | none => exact settleType_tree .call type f.result (told _)

end Settling

theorem isBinary_bare (e : Expr) : isBinary e.bare = isBinary e := by
  cases e <;> rfl

variable {catalog : Catalog} {space space' : Space} {scope scope' : ScopeId}

/-- The check of some expressions stops at the first, or it goes on with that one checked. -/
theorem exprs_cons_cases (catalog : Catalog) (space : Space) (scope : ScopeId) (e : Expr) (es : List Expr) :
    (∃ e' problem, expr catalog space scope e = (e', .error problem) ∧
      exprs catalog space scope (e :: es) = (e' :: es, .error problem)) ∨
    ∃ e' t es' result, expr catalog space scope e = (e', .ok t) ∧
      exprs catalog space scope (e :: es) = (e' :: es', result) := by
  rw [exprs]
  split
  next e' problem first => exact .inl ⟨e', problem, first, rfl⟩
  next e' t first =>
    split
    next => exact .inr ⟨e', t, _, _, first, rfl⟩
    next => exact .inr ⟨e', t, _, _, first, rfl⟩

theorem expr_of_exprs_cons {e : Expr} {es es' : List Expr} {ts : List Ty}
    (passed : exprs catalog space scope (e :: es) = (es', .ok ts)) :
    ∃ e' t, expr catalog space scope e = (e', .ok t) := by
  rcases exprs_cons_cases catalog space scope e es with ⟨_, _, -, all⟩ | ⟨e', t, _, _, first, -⟩
  · rw [all] at passed
    cases passed
  · exact ⟨e', t, first⟩

/-- An expression whose bare form passes is checked up to its first slot wherever names mean the same. -/
theorem comesTo_expr (alike : Space.Alike space scope space' scope') (e : Expr) {bare : Expr} {t : Ty}
    (passed : expr catalog space scope e.bare = (bare, .ok t)) :
    ComesTo Expr.firstSlot? e (expr catalog space' scope' e).1 (expr catalog space' scope' e).2 := by
  cases e with
  | literal value offset type =>
    rw [Expr.bare, expr] at passed
    rw [expr]
    cases typed : literalType value offset with
    | error problem =>
      rw [typed] at passed
      cases passed
    | ok t =>
      refine ⟨⟨.literal, .type, offset⟩, type.isSome, rfl, ?_⟩
      cases type with
      | none => rfl
      | some _ => exact ⟨rfl, rfl⟩
  | group inner offset type =>
    rw [Expr.bare, expr, isBinary_bare] at passed
    split at passed
    next isBinary =>
      split at passed
      next => cases passed
      next inside =>
        have inside := comesTo_expr alike inner inside
        rw [expr, if_pos isBinary]
        split
        next checked =>
          rw [checked] at inside
          exact inside.stops Expr.firstSlot? (.group · offset type) fun _ => rfl
        next checked =>
          rw [checked] at inside
          refine inside.goesOn (by rfl) ?_ _
          exact settleType_tree _ _ _ fun _ => rfl
    next => cases passed
  | binary op left right offset type =>
    rw [Expr.bare, expr] at passed
    split at passed
    next => cases passed
    next first =>
      have first := comesTo_expr alike left first
      rw [expr]
      split
      next checked =>
        rw [checked] at first
        exact first.stops Expr.firstSlot? (.binary op · right offset type) fun _ => rfl
      next checked =>
        rw [checked] at first
        refine first.goesOn (by rfl) ?_ _
        split
        next => rfl
        next =>
          split
          next => rfl
          next => exact settleType_tree _ _ _ fun _ => rfl
  | ref name offset binding type =>
    rw [Expr.bare, expr] at passed
    rw [expr, alike.names]
    cases found : space.lookupVariable? scope name with
    | none =>
      rw [found] at passed
      cases passed
    | some v =>
      refine ⟨⟨.access, .binding, offset⟩, binding.isSome, rfl, ?_⟩
      cases binding with
      | none => exact settleType_tree _ _ _ fun _ => rfl
      | some _ => exact ⟨rfl, rfl⟩
  | field receiver name offset binding type =>
    rw [Expr.bare, expr] at passed
    split at passed
    next => cases passed
    next object =>
      have object := comesTo_expr alike receiver object
      rw [expr]
      split
      next checked =>
        rw [checked] at object
        exact object.stops Expr.firstSlot? (.field · name offset binding type) fun _ => rfl
      next checked =>
        rw [checked] at object
        refine object.goesOn (by rfl) ?_ _
        split
        next => rfl
        next => exact settleVariable_tree _ _ _ fun _ _ => rfl
  | call name args offset callee type =>
    rw [Expr.bare, expr] at passed
    split at passed
    next => cases passed
    next given =>
      cases args with
      | nil =>
        cases given
        rw [expr, exprs]
        dsimp only
        rw [alike.calls]
        split at passed
        next => cases passed
        next =>
          refine ⟨⟨.call, .callee, offset⟩, callee.isSome, rfl, ?_⟩
          cases callee with
          | none => exact settleType_tree _ _ _ fun _ => rfl
          | some _ => exact ⟨rfl, rfl⟩
      | cons arg args =>
        obtain ⟨_, _, first⟩ := expr_of_exprs_cons given
        have first := comesTo_expr alike arg first
        rcases exprs_cons_cases catalog space' scope' arg args with
          ⟨_, _, checked, all⟩ | ⟨_, _, _, result, checked, all⟩
        · rw [checked] at first
          rw [expr, all]
          exact first.stops Expr.firstSlot? (fun arg => .call name (arg :: args) offset callee type) fun _ => rfl
        · rw [checked] at first
          rw [expr, all]
          refine first.goesOn (by rfl) ?_ _
          cases result with
          | error => rfl
          | ok types =>
            dsimp only
            split
            next => rfl
            next =>
              split
              next => rfl
              next => exact settleFunction_tree _ _ _ fun _ _ => rfl
  | send receiver name args offset callee type =>
    rw [Expr.bare, expr] at passed
    split at passed
    next => cases passed
    next given =>
      cases args with
      | nil =>
        cases given
        split at passed
        next => cases passed
        next object =>
          have object := comesTo_expr alike receiver object
          rw [expr, exprs]
          dsimp only
          split
          next checked =>
            rw [checked] at object
            exact object.stops Expr.firstSlot? (.send · name [] offset callee type) fun _ => rfl
          next checked =>
            rw [checked] at object
            refine object.goesOn (by rfl) ?_ _
            split
            next => rfl
            next =>
              split
              next => rfl
              next => exact settleFunction_tree _ _ _ fun _ _ => rfl
      | cons arg args =>
        obtain ⟨_, _, first⟩ := expr_of_exprs_cons given
        have first := comesTo_expr alike arg first
        rcases exprs_cons_cases catalog space' scope' arg args with
          ⟨_, _, checked, all⟩ | ⟨_, _, _, result, checked, all⟩
        · rw [checked] at first
          rw [expr, all]
          exact first.stops Expr.firstSlot? (fun arg => .send receiver name (arg :: args) offset callee type)
            fun _ => rfl
        · rw [checked] at first
          rw [expr, all]
          refine first.goesOn (by rfl) ?_ _
          cases result with
          | error => rfl
          | ok types =>
            dsimp only
            split
            next => rfl
            next =>
              split
              next => rfl
              next =>
                split
                next => rfl
                next => exact settleFunction_tree _ _ _ fun _ _ => rfl
  | unknown offset => cases passed
termination_by structural e

/-! ## Programs -/

/-- A field whose bare form passes is checked up to its first slot wherever names mean the same and its own name is
free. -/
theorem comesTo_field (alike : Space.Alike space scope space' scope') (f : Field)
    (free : ∀ type, (space'.declareVariable? scope' f.name type).isSome)
    (passed : (field catalog space scope f.bare).result = .ok ()) :
    ComesTo Field.firstSlot? f (field catalog space' scope' f).tree (field catalog space' scope' f).result := by
  obtain ⟨name, typeName, value, offset, binding⟩ := f
  unfold field Field.bare at passed
  unfold field
  dsimp only at passed ⊢
  cases named : Ty.named typeName offset with
  | error problem =>
    rw [named] at passed
    cases passed
  | ok wanted =>
    rw [named] at passed
    dsimp only at passed ⊢
    cases value with
    | none =>
      obtain ⟨⟨between, v⟩, declared⟩ := Option.isSome_iff_exists.mp (free wanted)
      rw [initializer, declared]
      refine ⟨⟨.field, .binding, offset⟩, binding.isSome, rfl, ?_⟩
      cases binding with
      | none => rfl
      | some _ => exact ⟨rfl, rfl⟩
    | some e =>
      rw [Option.map_some, initializer] at passed
      cases inside : expr catalog space scope e.bare with
      | mk bare result =>
        cases result with
        | error problem =>
          rw [inside] at passed
          cases passed
        | ok _ =>
          have comes := comesTo_expr alike e inside
          rw [initializer]
          cases checked : expr catalog space' scope' e with
          | mk e' result =>
            rw [checked] at comes
            cases result with
            | error problem =>
              exact comes.stops Field.firstSlot? (fun e => ⟨name, typeName, some e, offset, binding⟩) fun _ => rfl
            | ok given =>
              refine comes.goesOn (by rfl) ?_ _
              dsimp only
              cases wanted.require given e'.offset with
              | error problem => rfl
              | ok =>
                dsimp only
                split
                next => rfl
                next =>
                  split
                  next => rfl
                  next => rfl

/-- A method whose bare form passes is checked up to its slot wherever its own name is free. -/
theorem comesTo_method (m : Method)
    (free : ∀ params result, (space'.declareFunction? scope' m.name params result).isSome)
    (passed : (method catalog space scope m.bare).result = .ok ()) :
    ComesTo Method.firstSlot? m (method catalog space' scope' m).tree (method catalog space' scope' m).result := by
  have sameSignature : signature m.bare = signature m := rfl
  unfold method at passed
  unfold method
  rw [sameSignature] at passed
  cases signed : signature m with
  | error problem =>
    rw [signed] at passed
    cases passed
  | ok types =>
    obtain ⟨params, result⟩ := types
    obtain ⟨⟨between, f⟩, declared⟩ := Option.isSome_iff_exists.mp (free params result)
    dsimp only
    rw [declared]
    dsimp only
    refine ⟨⟨.method, .callee, m.offset⟩, m.callee.isSome, rfl, ?_⟩
    cases settled : m.callee with
    | some _ => exact ⟨rfl, rfl⟩
    | none =>
      obtain ⟨-, callee⟩ := grows_methodBody catalog between scope' params result { m with callee := some f }
      have offset := congrArg Method.offset
        (@bare_methodBody catalog scope' between params result { m with callee := some f })
      change some (SlotSite.mk .method .callee (Method.bare _).offset, Option.isSome (Method.callee _)) = _
      rw [callee, offset]
      rfl

/-- The check of a list stops at its first member, or it goes on with that one checked. -/
theorem each_cons_cases {τ : Type} (check : Space → τ → Checked τ) (space : Space) (x : τ) (xs : List τ) :
    (∃ between x' problem, check space x = ⟨between, x', .error problem⟩ ∧
      each check space (x :: xs) = .fail between (x' :: xs) problem) ∨
    ∃ between x', check space x = ⟨between, x', .ok ()⟩ ∧
      each check space (x :: xs) = (each check between xs).map (x' :: ·) := by
  rw [each]
  split
  next between x' problem first => exact .inl ⟨between, x', problem, first, rfl⟩
  next between x' first => exact .inr ⟨between, x', first, rfl⟩

theorem result_of_each_cons {τ : Type} {check : Space → τ → Checked τ} {space last : Space} {x : τ} {xs xs' : List τ}
    (passed : each check space (x :: xs) = ⟨last, xs', .ok ()⟩) : (check space x).result = .ok () := by
  rcases each_cons_cases check space x xs with ⟨_, _, _, -, all⟩ | ⟨_, _, first, -⟩
  · rw [all] at passed
    cases passed
  · rw [first]

/-- A program whose bare form passes is checked up to its first slot wherever names mean the same and are free. -/
theorem comesTo_source (alike : Space.Alike space scope space' scope')
    (freeVariable : ∀ name type, (space'.declareVariable? scope' name type).isSome)
    (freeFunction : ∀ name params result, (space'.declareFunction? scope' name params result).isSome)
    {needsMain : Bool} (needsMain' : Bool) {s : Source} (content : s.fields ≠ [] ∨ s.methods ≠ [])
    (passed : (source catalog needsMain space scope s.bare).result = .ok ()) :
    ComesTo Source.firstSlot? s (source catalog needsMain' space' scope' s).tree
      (source catalog needsMain' space' scope' s).result := by
  obtain ⟨fields, methods⟩ := s
  unfold source Source.bare at passed
  unfold source
  dsimp only at passed ⊢
  cases fields with
  | cons f fields =>
    split at passed
    next => cases passed
    next fieldsPassed =>
      have first := comesTo_field alike f (freeVariable f.name) (result_of_each_cons fieldsPassed)
      rcases each_cons_cases (fun space f => field catalog space scope' f) space' f fields with
        ⟨_, f', _, checked, all⟩ | ⟨between, f', checked, all⟩
      · rw [checked] at first
        rw [all]
        exact first.stops Source.firstSlot? (fun f => ⟨f :: fields, methods⟩) fun _ => rfl
      · rw [checked] at first
        rw [all]
        refine first.goesOn (by rfl) ?_ _
        cases each (fun space f => field catalog space scope' f) between fields with
        | mk last fields' result =>
          cases result with
          | error => rfl
          | ok =>
            dsimp only [Checked.map]
            split
            next => rfl
            next => rfl
  | nil =>
    cases methods with
    | nil => exact absurd rfl (content.resolve_left (absurd rfl))
    | cons m methods =>
      rw [each]
      dsimp only [Checked.pass]
      split at passed
      next => cases passed
      next fieldsPassed =>
        cases fieldsPassed
        split at passed
        next => cases passed
        next methodsPassed =>
          have first := comesTo_method m (freeFunction m.name) (result_of_each_cons methodsPassed)
          rcases each_cons_cases (fun space m => method catalog space scope' m) space' m methods with
            ⟨_, m', _, checked, all⟩ | ⟨between, m', checked, all⟩
          · rw [checked] at first
            rw [all]
            exact first.stops Source.firstSlot? (fun m => ⟨[], m :: methods⟩) fun _ => rfl
          · rw [checked] at first
            rw [all]
            refine first.goesOn (by rfl) ?_ _
            cases each (fun space m => method catalog space scope' m) between methods with
            | mk last methods' result =>
              cases result with
              | error => rfl
              | ok => rfl

/-- The same of a program in a new scope, as long as the frames that were there stay as they are. -/
theorem comesTo_checkSource {catalog : Catalog} {needsMain : Bool} {space space' : Space} {outer : ScopeId}
    {frame : Frame} (known : space.frame? outer = some frame)
    (kept : ∀ i f, space.frame? i = some f → space'.frame? i = some f) (needsMain' : Bool) {s : Source}
    (content : s.fields ≠ [] ∨ s.methods ≠ [])
    (passed : (checkSource catalog needsMain space outer s.bare).result = .ok ()) :
    ComesTo Source.firstSlot? s (checkSource catalog needsMain' space' outer s).tree
      (checkSource catalog needsMain' space' outer s).result :=
  comesTo_source (Space.alike_child known kept) (space'.declareVariable?_child_isSome outer)
    (space'.declareFunction?_child_isSome outer) needsMain' content passed

end Check

theorem Source.content_bare {s : Source} :
    (s.bare.fields ≠ [] ∨ s.bare.methods ≠ []) ↔ (s.fields ≠ [] ∨ s.methods ≠ []) := by
  simp [Source.bare]

/-- A program that passed the check has its slots filled, and another check stops at the first of them and changes
nothing. That slot alone decides: a tree of this form is refused there if it is filled, and gets past it if not. -/
theorem checked_tree_is_refused (catalog : Catalog) (needsMain : Bool) {space : Space} {outer : ScopeId} {frame : Frame}
    (known : space.frame? outer = some frame) {s : Source} (empty : s.bare = s)
    (content : s.fields ≠ [] ∨ s.methods ≠ [])
    (passed : (checkSource catalog needsMain space outer s).result = .ok ()) :
    let once := checkSource catalog needsMain space outer s
    ∃ site, s.firstSlot? = some (site, false) ∧ once.tree.firstSlot? = some (site, true) ∧
      (∀ needsMain',
        let twice := checkSource catalog needsMain' once.space outer once.tree
        twice.result = .error (.alreadySettled site.phrase site.slot) ∧ twice.tree = once.tree) ∧
      ∀ t, t.bare = s → ∃ filled, t.firstSlot? = some (site, filled) ∧
        let c := checkSource catalog needsMain space outer t
        if filled then c.result = .error (.alreadySettled site.phrase site.slot) ∧ c.tree = t
        else c.tree.firstSlot? = some (site, true) := by
  intro once
  -- Whatever its slots hold, the check comes to the first one of a tree of this form.
  have comes : ∀ t : Source, t.bare = s → ∀ space', (∀ i f, space.frame? i = some f → space'.frame? i = some f) →
      ∀ needsMain', Check.ComesTo Source.firstSlot? t (checkSource catalog needsMain' space' outer t).tree
        (checkSource catalog needsMain' space' outer t).result := by
    rintro t rfl space' kept needsMain'
    exact Check.comesTo_checkSource known kept needsMain' (Source.content_bare.mp content) passed
  obtain ⟨site, filled, found, settled⟩ := comes s empty space (fun _ _ => id) needsMain
  -- In the tree itself it is empty, and in one of the same form it is at the same place.
  have moved : ∀ t : Source, t.bare = s → ∀ site' filled', t.firstSlot? = some (site', filled') →
      s.firstSlot? = some (site', false) := by
    rintro t rfl site' filled' found'
    rw [t.firstSlot?_bare, found']
    rfl
  have isEmpty := moved s empty site filled found
  rw [isEmpty] at found
  cases found
  have onceBare : once.tree.bare = s := (Check.bare_checkSource ..).trans empty
  refine ⟨site, isEmpty, settled, fun needsMain' => ?_, fun t bare => ?_⟩
  · obtain ⟨site', filled', found', refused⟩ :=
      comes once.tree onceBare once.space (fun _ _ => frame?_checkSource catalog needsMain outer s) needsMain'
    rw [settled] at found'
    cases found'
    exact ⟨refused.2, refused.1⟩
  · obtain ⟨site', filled', found', reached⟩ := comes t bare space (fun _ _ => id) needsMain
    have samePlace := moved t bare site' filled' found'
    rw [isEmpty] at samePlace
    cases samePlace
    refine ⟨filled', found', ?_⟩
    cases filled' with
    | true => exact ⟨reached.2, reached.1⟩
    | false => exact reached

/-- The first slot of a program may be deep in the initializer of a field: here it is the type of the first literal,
inside a group, and the second check is refused there. -/
theorem field_is_refused_at_its_first_literal :
    let one : Expr := .literal (.int 1) 18
    let sum : Expr := .group (.binary .add one (.literal (.int 2) 22) 18) 17
    let s : Source := {
      fields := [{ name := "x", typeName := "Integer", initializer := some (.binary .mul sum (.literal (.int 3) 27) 17),
                   offset := 0 }]
      methods := [] }
    let once := checkSource {} false twoScopes 1 s
    s.bare = s ∧ once.result = .ok () ∧
      (checkSource {} false once.space 1 once.tree).result = .error (.alreadySettled .literal .type) ∧
      (checkSource {} false once.space 1 once.tree).tree = once.tree := by
  intro one sum s once
  have passed : once.result = .ok () := by decide +kernel
  have known : twoScopes.frame? 1 = some { parent := some 0 } := rfl
  have empty : s.bare = s := rfl
  obtain ⟨site, found, -, refused, -⟩ :=
    checked_tree_is_refused {} false known empty (.inl (List.cons_ne_nil _ _)) passed
  obtain ⟨isRefused, same⟩ := refused false
  cases found
  exact ⟨empty, passed, isRefused, same⟩

end Primer
