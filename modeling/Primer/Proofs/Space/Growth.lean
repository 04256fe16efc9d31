import Primer.Space

/-!
# How a space may grow

Frames are added and never taken away, and a frame that is there keeps its parent and its functions. One
space grows into another when this is all that happens and variables are added only to frames that are
said to be open; every other frame stays as it is.

Growth is reflexive and transitive, so what is shown for one step holds of a run. What a name means in a
scope then depends on the open frames alone; a function is found as before in every scope there was
(`Grows.lookupFunction?_eq`).
-/

namespace Primer.Space

/-! ## Frames -/

theorem frame?_lt {s : Space} {i : ScopeId} {f : Frame} (found : s.frame? i = some f) : i < s.frames.size :=
  (Array.getElem?_eq_some_iff.mp found).1

theorem frame?_eq_none {s : Space} {i : ScopeId} : s.frame? i = none ↔ s.frames.size ≤ i := by
  simp [frame?]

theorem frame?_push (s : Space) (parent : Option ScopeId) (older : ∀ p, parent = some p → p < s.frames.size)
    (i : ScopeId) :
    (s.push parent older).frame? i = if i = s.frames.size then some { parent } else s.frame? i := by
  simp [frame?, push, Array.getElem?_push]

theorem child_snd (s : Space) (scope : ScopeId) : (s.child scope).2 = s.frames.size := by
  unfold child root
  split <;> rfl

@[simp]
theorem nextNumber_child (s : Space) (scope : ScopeId) : (s.child scope).1.nextNumber = s.nextNumber := by
  unfold child root
  split <;> rfl

/-- A new scope inside one that exists has it for a parent, and binds nothing. -/
theorem frame?_child {s : Space} {scope : ScopeId} {f : Frame} (found : s.frame? scope = some f) (i : ScopeId) :
    (s.child scope).1.frame? i = if i = s.frames.size then some { parent := some scope } else s.frame? i := by
  unfold child
  rw [dif_pos (frame?_lt found), frame?_push]

/-- A new scope binds nothing, and the others stay as they are. -/
theorem frame?_child_cases {s : Space} {scope i : ScopeId} {f : Frame}
    (found : (s.child scope).1.frame? i = some f) :
    s.frame? i = some f ∨ (i = s.frames.size ∧ f.vars = [] ∧ f.funs = []) := by
  unfold child root at found
  split at found
  all_goals
    rw [frame?_push] at found
    split at found
    next last =>
      cases found
      exact .inr ⟨last, rfl, rfl⟩
    next => exact .inl found

/-- A new scope is there, whether or not the one it was to be inside of is. -/
theorem exists_frame_child (s : Space) (scope : ScopeId) :
    ∃ f, (s.child scope).1.frame? s.frames.size = some f := by
  unfold child root
  split
  all_goals
    rw [frame?_push, if_pos rfl]
    exact ⟨_, rfl⟩

/-- A new scope holds no variable yet. -/
theorem holdsVariable_child (s : Space) (scope : ScopeId) (name : String) :
    (s.child scope).1.holdsVariable (s.child scope).2 name = false := by
  rw [child_snd]
  unfold holdsVariable
  cases found : (s.child scope).1.frame? s.frames.size with
  | none => rfl
  | some f =>
    rcases frame?_child_cases found with old | ⟨-, vars, -⟩
    · exact absurd (frame?_lt old) (Nat.lt_irrefl _)
    · rw [Option.any_some, Frame.findVariable?, vars]
      rfl

/-- Any variable can be declared in a new scope. -/
theorem declareVariable?_child_isSome (s : Space) (scope : ScopeId) (name : String) (type : Ty) :
    ((s.child scope).1.declareVariable? (s.child scope).2 name type).isSome := by
  have free : ((s.child scope).1.newVariable name type).1.holdsVariable (s.child scope).2
      ((s.child scope).1.newVariable name type).2.name = false :=
    s.holdsVariable_child scope name
  dsimp only [declareVariable?, defineVariable?]
  rw [if_neg (ne_true_of_eq_false free)]
  rfl

theorem frame?_addVariable (s : Space) (scope : ScopeId) (v : Variable) (i : ScopeId) :
    (s.addVariable scope v).frame? i =
      if scope = i then (s.frame? i).map fun f => { f with vars := v :: f.vars } else s.frame? i := by
  simp [frame?, addVariable, modifyFrame, Array.getElem?_modify]

theorem frame?_addFunction (s : Space) (scope : ScopeId) (g : Function) (i : ScopeId) :
    (s.addFunction scope g).frame? i =
      if scope = i then (s.frame? i).map fun f => { f with funs := g :: f.funs } else s.frame? i := by
  simp [frame?, addFunction, modifyFrame, Array.getElem?_modify]

/-! ## Lookup -/

/-- A scope offers what its frame does, or else what its parent does. -/
theorem findUp_eq {α : Type} (s : Space) (pick : Frame → Option α) (scope : ScopeId) :
    s.findUp pick scope =
      (s.frame? scope).bind fun f => (pick f).or (f.parent.bind fun p => s.findUp pick p) := by
  rw [findUp]
  split
  next absent => simp [frame?, absent]
  next f found =>
    simp only [frame?, found, Option.bind_some]
    split
    next a picked => simp [picked]
    next picked =>
      rw [picked]
      split
      next orphan => simp [orphan]
      next p isParent => simp [isParent]

/-- Only frames up to a scope matter to what it offers. -/
theorem findUp_congr {α : Type} {s s' : Space} {pick : Frame → Option α} {scope : ScopeId}
    (same : ∀ i ≤ scope, s'.frame? i = s.frame? i) : s'.findUp pick scope = s.findUp pick scope := by
  induction scope using Nat.strongRecOn with
  | ind scope ih =>
    rw [findUp_eq s', findUp_eq s, same scope (Nat.le_refl _)]
    cases found : s.frame? scope with
    | none => rfl
    | some f =>
      rw [Option.bind_some, Option.bind_some]
      congr 1
      cases isParent : f.parent with
      | none => rfl
      | some p =>
        have older := s.parent_lt scope f p found isParent
        exact ih p older fun i le => same i (Nat.le_trans le (Nat.le_of_lt older))

/-- What lies around a scope is told by its parent and the older frames. -/
theorem around_congr {α : Type} {s s' : Space} {g : ScopeId} {f f' : Frame} (found : s.frame? g = some f)
    (found' : s'.frame? g = some f') (parent : f'.parent = f.parent) (same : ∀ i < g, s'.frame? i = s.frame? i)
    (pick : Frame → Option α) :
    ((s'.parent? g).bind fun p => s'.findUp pick p) = (s.parent? g).bind fun p => s.findUp pick p := by
  rw [parent?, parent?, found, found', Option.bind_some, Option.bind_some, parent]
  cases isParent : f.parent with
  | none => rfl
  | some p =>
    have older := s.parent_lt g f p found isParent
    exact findUp_congr fun i le => same i (Nat.lt_of_le_of_lt le older)

/-- What is found comes from a frame on the way up. -/
theorem exists_frame_of_findUp {α : Type} {s : Space} {pick : Frame → Option α} {scope : ScopeId} {a : α}
    (found : s.findUp pick scope = some a) : ∃ i f, s.frame? i = some f ∧ i ≤ scope ∧ pick f = some a := by
  induction scope using Nat.strongRecOn with
  | ind scope ih =>
    rw [findUp_eq] at found
    obtain ⟨f, isFrame, found⟩ := Option.bind_eq_some_iff.mp found
    rcases Option.or_eq_some_iff.mp found with picked | ⟨-, found⟩
    · exact ⟨scope, f, isFrame, Nat.le_refl _, picked⟩
    · obtain ⟨p, isParent, found⟩ := Option.bind_eq_some_iff.mp found
      have older := s.parent_lt scope f p isFrame isParent
      obtain ⟨i, f', isFrame', le, picked⟩ := ih p older found
      exact ⟨i, f', isFrame', Nat.le_trans le (Nat.le_of_lt older), picked⟩

/-- A function is found by its own name and arity. -/
theorem key_of_lookupFunction? {s : Space} {scope : ScopeId} {name : String} {arity : Nat} {f : Function}
    (found : s.lookupFunction? scope name arity = some f) : f.name = name ∧ f.arity = arity := by
  obtain ⟨i, frame, -, -, picked⟩ := exists_frame_of_findUp found
  simpa using List.find?_some picked

/-- A scope finds the functions of its frame, and then those around it. -/
theorem lookupFunction?_of_frame? {s : Space} {scope : ScopeId} {f : Frame} (found : s.frame? scope = some f)
    (name : String) (arity : Nat) :
    s.lookupFunction? scope name arity =
      (f.findFunction? name arity).or ((s.parent? scope).bind fun p => s.lookupFunction? p name arity) := by
  unfold lookupFunction?
  rw [findUp_eq s, found, Option.bind_some, parent?, found]
  rfl

/-! ## Functions -/

/-- What becomes of a space when a function is declared. -/
structure DeclaresFunction (s : Space) (scope : ScopeId) (frame : Frame) (f : Function) (s' : Space) : Prop where
  numbered : f.number = s.nextNumber
  next : s'.nextNumber = s.nextNumber + 1
  free : frame.findFunction? f.name f.arity = none
  added : s'.frame? scope = some { frame with funs := f :: frame.funs }
  others : ∀ i, i ≠ scope → s'.frame? i = s.frame? i

theorem declaresFunction_of_eq_some {s s' : Space} {scope : ScopeId} {frame : Frame} {name : String}
    {params : List Ty} {result : Ty} {f : Function} (found : s.frame? scope = some frame)
    (declared : s.declareFunction? scope name params result = some (s', f)) :
    f.name = name ∧ f.params = params ∧ f.result = result ∧ s.DeclaresFunction scope frame f s' := by
  have found' : (s.newFunction name params result).1.frame? scope = some frame := found
  simp only [declareFunction?, defineFunction?] at declared
  split at declared
  next => cases declared
  next new =>
    cases declared
    refine ⟨rfl, rfl, rfl, rfl, rfl, ?_, ?_, ?_⟩
    · rw [holdsFunction, found', Option.any_some, Bool.not_eq_true, Option.isSome_eq_false_iff,
        Option.isNone_iff_eq_none] at new
      exact new
    · rw [frame?_addFunction, if_pos rfl, found', Option.map_some]
    · intro i other
      rw [frame?_addFunction, if_neg (Ne.symm other)]
      rfl

/-- A function can be declared in a frame that has none of its name and arity. -/
theorem exists_declareFunction? {s : Space} {scope : ScopeId} {frame : Frame} {name : String} {params : List Ty}
    (found : s.frame? scope = some frame) (free : frame.findFunction? name params.length = none) (result : Ty) :
    ∃ s' f, s.declareFunction? scope name params result = some (s', f) := by
  have found' : (s.newFunction name params result).1.frame? scope = some frame := found
  have new : (s.newFunction name params result).1.holdsFunction scope name params.length = false := by
    rw [holdsFunction, found', Option.any_some, free]
    rfl
  simp only [declareFunction?, defineFunction?]
  rw [if_neg]
  · exact ⟨_, _, rfl⟩
  · exact (Bool.not_eq_true _).mpr new

/-- Any function can be declared in a new scope. -/
theorem declareFunction?_child_isSome (s : Space) (scope : ScopeId) (name : String) (params : List Ty) (result : Ty) :
    ((s.child scope).1.declareFunction? (s.child scope).2 name params result).isSome := by
  obtain ⟨f, found⟩ := s.exists_frame_child scope
  have empty : f.findFunction? name params.length = none := by
    rcases frame?_child_cases found with old | ⟨-, -, funs⟩
    · exact absurd (frame?_lt old) (Nat.lt_irrefl _)
    · rw [Frame.findFunction?, funs]
      rfl
  obtain ⟨s', g, declared⟩ := exists_declareFunction? found empty result
  rw [child_snd, declared]
  rfl

/-! ## Growth -/

/-- What happens to a space when frames are added, and variables to open frames. -/
structure Grows (opened : ScopeId → Prop) (s s' : Space) : Prop where
  number : s.nextNumber ≤ s'.nextNumber
  kept : ∀ i f, s.frame? i = some f → ∃ f', s'.frame? i = some f' ∧ f'.parent = f.parent ∧ f'.funs = f.funs ∧
    ∃ new, f'.vars = new ++ f.vars ∧ (¬ opened i → new = [])
  fresh : ∀ i f, s'.frame? i = some f → s.frame? i = none → f.funs = []

namespace Grows

variable {opened : ScopeId → Prop} {s s' s'' : Space}

theorem refl (opened : ScopeId → Prop) (s : Space) : Grows opened s s where
  number := Nat.le_refl _
  kept _ f found := ⟨f, found, rfl, rfl, [], rfl, fun _ => rfl⟩
  fresh i f found absent := by
    rw [found] at absent
    cases absent

theorem trans (first : Grows opened s s') (second : Grows opened s' s'') : Grows opened s s'' where
  number := Nat.le_trans first.number second.number
  kept i f found := by
    obtain ⟨f', found', parent, funs, new, vars, closed⟩ := first.kept i f found
    obtain ⟨f'', found'', parent', funs', new', vars', closed'⟩ := second.kept i f' found'
    refine ⟨f'', found'', parent'.trans parent, funs'.trans funs, new' ++ new, ?_, ?_⟩
    · rw [vars', vars, List.append_assoc]
    · intro notOpened
      rw [closed notOpened, closed' notOpened, List.append_nil]
  fresh i f found absent := by
    cases between : s'.frame? i with
    | none => exact second.fresh i f found between
    | some f' =>
      obtain ⟨g, found', -, funs, -⟩ := second.kept i f' between
      rw [found] at found'
      cases found'
      rw [funs]
      exact first.fresh i f' between absent

theorem mono {opened' : ScopeId → Prop} (grows : Grows opened s s') (wider : ∀ i, opened i → opened' i) :
    Grows opened' s s' where
  number := grows.number
  kept i f found := by
    obtain ⟨f', found', parent, funs, new, vars, closed⟩ := grows.kept i f found
    exact ⟨f', found', parent, funs, new, vars, fun notOpened => closed fun open' => notOpened (wider i open')⟩
  fresh := grows.fresh

/-- A frame that is not open stays as it is. -/
theorem frame?_eq {i : ScopeId} {f : Frame} (grows : Grows opened s s') (closed : ¬ opened i)
    (found : s.frame? i = some f) : s'.frame? i = some f := by
  obtain ⟨f', found', parent, funs, new, vars, none⟩ := grows.kept i f found
  rw [none closed] at vars
  obtain ⟨parent', vars', funs'⟩ := f
  obtain ⟨parent'', vars'', funs''⟩ := f'
  cases parent
  cases funs
  cases vars
  exact found'

theorem exists_frame {i : ScopeId} {f : Frame} (grows : Grows opened s s') (found : s.frame? i = some f) :
    ∃ f', s'.frame? i = some f' ∧ f'.parent = f.parent ∧ f'.funs = f.funs := by
  obtain ⟨f', found', parent, funs, -⟩ := grows.kept i f found
  exact ⟨f', found', parent, funs⟩

/-- A frame open only inside what is new is open to nobody. -/
theorem of_child {scope : ScopeId} (later : Grows (· = s.frames.size) (s.child scope).1 s') :
    Grows (fun _ => False) s s' where
  number := by
    have number := later.number
    rwa [nextNumber_child] at number
  kept i f found := by
    have notNew : i ≠ s.frames.size := Nat.ne_of_lt (frame?_lt found)
    have same : (s.child scope).1.frame? i = some f := by
      unfold child root
      split <;> rwa [frame?_push, if_neg notNew]
    exact ⟨f, later.frame?_eq notNew same, rfl, rfl, [], rfl, fun _ => rfl⟩
  fresh i f found absent := by
    cases between : (s.child scope).1.frame? i with
    | none => exact later.fresh i f found between
    | some f' =>
      obtain ⟨g, found', -, funs⟩ := later.exists_frame between
      rw [found] at found'
      cases found'
      rcases frame?_child_cases between with old | ⟨-, -, none⟩
      · rw [old] at absent
        cases absent
      · rw [funs, none]

theorem newVariable (s : Space) (name : String) (type : Ty) (javaName : Option String) :
    Grows opened s (s.newVariable name type javaName).1 :=
  ⟨Nat.le_succ _, (refl opened s).kept, (refl opened s).fresh⟩

theorem addVariable (s : Space) (scope : ScopeId) (v : Variable) : Grows (· = scope) s (s.addVariable scope v) where
  number := Nat.le_refl _
  kept i f found := by
    rw [frame?_addVariable, found]
    by_cases same : scope = i
    · rw [if_pos same]
      exact ⟨_, rfl, rfl, rfl, [v], rfl, fun other => absurd same.symm other⟩
    · rw [if_neg same]
      exact ⟨f, rfl, rfl, rfl, [], rfl, fun _ => rfl⟩
  fresh i f found absent := by
    rw [frame?_addVariable, absent] at found
    split at found <;> cases found

theorem declareVariable {scope : ScopeId} {name : String} {type : Ty} {v : Variable}
    (declared : s.declareVariable? scope name type = some (s', v)) : Grows (· = scope) s s' := by
  simp only [declareVariable?, defineVariable?] at declared
  split at declared
  next => cases declared
  next =>
    cases declared
    exact (newVariable s name type none).trans (.addVariable _ scope _)

/-- The frames before one that exists stay as they are when only later ones are open. -/
theorem frame?_eq_of_lt {i g : ScopeId} {f : Frame} (grows : Grows opened s s') (within : ∀ i, opened i → g ≤ i)
    (found : s.frame? g = some f) (lt : i < g) : s'.frame? i = s.frame? i := by
  have known : i < s.frames.size := Nat.lt_trans lt (frame?_lt found)
  have old : s.frame? i = some s.frames[i] := Array.getElem?_eq_getElem known
  rw [old]
  exact grows.frame?_eq (fun opened => Nat.not_le_of_lt lt (within i opened)) old

/-- Every scope finds the functions that it found before. -/
theorem lookupFunction?_eq {scope : ScopeId} {f : Frame} (grows : Grows opened s s')
    (found : s.frame? scope = some f) (name : String) (arity : Nat) :
    s'.lookupFunction? scope name arity = s.lookupFunction? scope name arity := by
  induction scope using Nat.strongRecOn generalizing f with
  | ind scope ih =>
    obtain ⟨f', found', parent, funs⟩ := grows.exists_frame found
    unfold lookupFunction?
    rw [Space.findUp_eq s', Space.findUp_eq s, found, found', Option.bind_some, Option.bind_some]
    rw [Frame.findFunction?, Frame.findFunction?, funs, parent]
    congr 1
    cases isParent : f.parent with
    | none => rfl
    | some p =>
      have older := s.parent_lt scope f p found isParent
      have inside : p < s.frames.size := Nat.lt_trans older (frame?_lt found)
      exact ih p older (Array.getElem?_eq_getElem inside)

/-- So does what lies around it. -/
theorem aroundFunction?_eq {g : ScopeId} {f : Frame} (grows : Grows opened s s') (found : s.frame? g = some f)
    (name : String) (arity : Nat) :
    ((s'.parent? g).bind fun p => s'.lookupFunction? p name arity) =
      (s.parent? g).bind fun p => s.lookupFunction? p name arity := by
  obtain ⟨f', found', parent, -⟩ := grows.exists_frame found
  rw [parent?, parent?, found, found', Option.bind_some, Option.bind_some, parent]
  cases isParent : f.parent with
  | none => rfl
  | some p =>
    have inside : p < s.frames.size := Nat.lt_trans (s.parent_lt g f p found isParent) (frame?_lt found)
    exact grows.lookupFunction?_eq (Array.getElem?_eq_getElem inside) name arity

end Grows

end Primer.Space
