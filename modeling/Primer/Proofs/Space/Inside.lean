import Mathlib.Data.List.Forall2
import Primer.Proofs.Space.Growth

/-!
# Scopes inside a program

The scopes of a program lie inside its global one: the blocks of a method, the scope of its parameters,
and then the global scope, where all functions of the program are bound. `Inside` describes the variables
on that way, frame by frame and the innermost first, up to a relation: the check describes its own
scopes exactly, and a run describes its scopes by those of the check.

A name that some frame on the way binds means the variable described there; any other name, and every
function that is not one of the program's, means what it means around the program.
-/

namespace Primer

/-- What is looked for in related lists is found in both, and related, or in neither. -/
theorem rel_find?_of_forall₂ {α β : Type} {R : α → β → Prop} {p : α → Bool} {q : β → Bool}
    (same : ∀ a b, R a b → p a = q b) {as : List α} {bs : List β} (related : List.Forall₂ R as bs) :
    Option.Rel R (as.find? p) (bs.find? q) := by
  induction related with
  | nil => exact .none
  | @cons a b as bs first _ ih =>
    rw [List.find?_cons, List.find?_cons, same a b first]
    cases q b with
    | true => exact .some first
    | false => exact ih

namespace Space

/-- The variable that frames, given by their variables, bind to a name. -/
def pickVariable? (frames : List (List Variable)) (name : String) : Option Variable :=
  frames.findSome? fun vs => vs.find? fun v => v.name == name

/-- That a scope lies inside the global scope `g` of a program, where all functions are bound. -/
inductive Under (s : Space) (g : ScopeId) : ScopeId → Prop
  | global {f : Frame} (found : s.frame? g = some f) : Under s g g
  | inner {scope p : ScopeId} {f : Frame} (found : s.frame? scope = some f) (isParent : f.parent = some p)
      (noFunctions : f.funs = []) (outside : Under s g p) : Under s g scope

namespace Under

variable {s s' : Space} {g scope : ScopeId}

theorem of_grows {opened : ScopeId → Prop} (under : Under s g scope) (grows : Grows opened s s') :
    Under s' g scope := by
  induction under with
  | global found =>
    obtain ⟨f', found', -⟩ := grows.exists_frame found
    exact .global found'
  | inner found isParent noFunctions _ ih =>
    obtain ⟨f', found', parent, funs⟩ := grows.exists_frame found
    exact .inner found' (parent.trans isParent) (funs.trans noFunctions) ih

theorem child (under : Under s g scope) : Under (s.child scope).1 g s.frames.size := by
  have grows : Grows (fun _ => False) s (s.child scope).1 := .of_child (.refl _ _)
  have exists_frame : ∃ f, s.frame? scope = some f := by
    cases under with
    | global found => exact ⟨_, found⟩
    | inner found => exact ⟨_, found⟩
  obtain ⟨f, found⟩ := exists_frame
  have new : (s.child scope).1.frame? s.frames.size = some { parent := some scope } := by
    rw [frame?_child found, if_pos rfl]
  exact .inner new rfl rfl (under.of_grows grows)

/-- Functions are bound in the global scope, or around it. -/
theorem lookupFunction?_eq (under : Under s g scope) (name : String) (arity : Nat) :
    s.lookupFunction? scope name arity = s.lookupFunction? g name arity := by
  induction under with
  | global => rfl
  | inner found isParent noFunctions _ ih =>
    rw [← ih]
    unfold lookupFunction?
    rw [findUp_eq, found, Option.bind_some, isParent]
    simp only [Frame.findFunction?, noFunctions, List.find?_nil, Option.none_or, Option.bind_some]

end Under

/-- That a scope lies inside the global scope `g` of a program, with variables on the way there that are
related to the described ones. -/
inductive Inside (R : Variable → Variable → Prop) (s : Space) (g : ScopeId) :
    ScopeId → List (List Variable) → Prop
  | global {f : Frame} {vs : List Variable} (found : s.frame? g = some f) (bound : List.Forall₂ R f.vars vs) :
      Inside R s g g [vs]
  | inner {scope p : ScopeId} {f : Frame} {vs : List Variable} {frames : List (List Variable)}
      (found : s.frame? scope = some f) (isParent : f.parent = some p) (noFunctions : f.funs = [])
      (bound : List.Forall₂ R f.vars vs) (outside : Inside R s g p frames) :
      Inside R s g scope (vs :: frames)

namespace Inside

variable {R R' : Variable → Variable → Prop} {s s' : Space} {g scope : ScopeId} {frames : List (List Variable)}

theorem mono (inside : Inside R s g scope frames) (wider : ∀ d v, R d v → R' d v) :
    Inside R' s g scope frames := by
  induction inside with
  | global found bound => exact .global found (bound.imp wider)
  | inner found isParent noFunctions bound _ ih => exact .inner found isParent noFunctions (bound.imp wider) ih

theorem exists_frame (inside : Inside R s g scope frames) : ∃ f, s.frame? scope = some f := by
  cases inside with
  | global found => exact ⟨_, found⟩
  | inner found => exact ⟨_, found⟩

theorem exists_cons (inside : Inside R s g scope frames) : ∃ vs rest, frames = vs :: rest := by
  cases inside with
  | global => exact ⟨_, _, rfl⟩
  | inner => exact ⟨_, _, rfl⟩

theorem global_le (inside : Inside R s g scope frames) : g ≤ scope := by
  induction inside with
  | global => exact Nat.le_refl g
  | inner found isParent _ _ _ ih => exact Nat.le_trans ih (Nat.le_of_lt (s.parent_lt _ _ _ found isParent))

/-- Nothing but the global scope lies on the way from it to itself. -/
theorem at_global (inside : Inside R s g g frames) :
    ∃ f vs, s.frame? g = some f ∧ frames = [vs] ∧ List.Forall₂ R f.vars vs := by
  cases inside with
  | global found bound => exact ⟨_, _, found, rfl, bound⟩
  | inner found isParent _ _ outside =>
    exact absurd (s.parent_lt _ _ _ found isParent) (Nat.not_lt_of_le outside.global_le)

/-- Frames up to a scope describe what they did when only later frames are open. -/
theorem of_grows {opened : ScopeId → Prop} (inside : Inside R s g scope frames) (grows : Grows opened s s')
    (later : ∀ i, opened i → scope < i) : Inside R s' g scope frames := by
  induction inside with
  | global found bound =>
    exact .global (grows.frame?_eq (fun opened => Nat.lt_irrefl _ (later _ opened)) found) bound
  | inner found isParent noFunctions bound _ ih =>
    have older := s.parent_lt _ _ _ found isParent
    have kept := grows.frame?_eq (fun opened => Nat.lt_irrefl _ (later _ opened)) found
    exact .inner kept isParent noFunctions bound (ih fun i opened => Nat.lt_trans older (later i opened))

/-- A new scope describes nothing of its own. -/
theorem child (inside : Inside R s g scope frames) :
    Inside R (s.child scope).1 g s.frames.size ([] :: frames) := by
  obtain ⟨f, found⟩ := inside.exists_frame
  have new : (s.child scope).1.frame? s.frames.size = some { parent := some scope } := by
    rw [frame?_child found, if_pos rfl]
  exact .inner new rfl rfl .nil (inside.of_grows (.of_child (.refl _ _)) fun _ => False.elim)

/-- A variable bound in a scope is described first. -/
theorem addVariable {d v : Variable} {vs : List Variable} (inside : Inside R s g scope (vs :: frames))
    (related : R d v) : Inside R (s.addVariable scope d) g scope ((v :: vs) :: frames) := by
  have added : ∀ {f : Frame}, s.frame? scope = some f →
      (s.addVariable scope d).frame? scope = some { f with vars := d :: f.vars } := by
    intro f found
    rw [frame?_addVariable, if_pos rfl, found, Option.map_some]
  cases inside with
  | global found bound => exact .global (added found) (.cons related bound)
  | inner found isParent noFunctions bound outside =>
    have older := s.parent_lt _ _ _ found isParent
    have kept := outside.of_grows (Grows.addVariable s scope d) fun i same => same ▸ older
    exact .inner (added found) isParent noFunctions (.cons related bound) kept

theorem under (inside : Inside R s g scope frames) : Under s g scope := by
  induction inside with
  | global found => exact .global found
  | inner found isParent noFunctions _ _ ih => exact .inner found isParent noFunctions ih

theorem rel_find? (named : ∀ d v, R d v → d.name = v.name) {ds vs : List Variable} (bound : List.Forall₂ R ds vs)
    (name : String) : Option.Rel R (ds.find? fun d => d.name == name) (vs.find? fun v => v.name == name) :=
  rel_find?_of_forall₂ (fun d v related => by rw [named d v related]) bound

/-- A name that is bound on the way to the global scope means a variable related to the described one; any
other means what it means around that scope. -/
theorem lookupVariable?_cases (inside : Inside R s g scope frames) (named : ∀ d v, R d v → d.name = v.name)
    (name : String) :
    match pickVariable? frames name with
    | some v => ∃ d, s.lookupVariable? scope name = some d ∧ R d v
    | none => s.lookupVariable? scope name = (s.parent? g).bind fun p => s.lookupVariable? p name := by
  induction inside with
  | @global f vs found bound =>
    have same := rel_find? named bound name
    simp only [pickVariable?, List.findSome?_cons, List.findSome?_nil, lookupVariable?]
    rw [findUp_eq, found, Option.bind_some, Frame.findVariable?, parent?, found, Option.bind_some]
    generalize f.vars.find? (fun d => d.name == name) = d at same
    generalize vs.find? (fun v => v.name == name) = v at same
    cases same with
    | some related => exact ⟨_, rfl, related⟩
    | none => rfl
  | @inner scope p f vs frames found isParent noFunctions bound _ ih =>
    have same := rel_find? named bound name
    simp only [pickVariable?, List.findSome?_cons, lookupVariable?] at ih ⊢
    rw [findUp_eq s _ scope, found, Option.bind_some, Frame.findVariable?, isParent, Option.bind_some]
    generalize f.vars.find? (fun d => d.name == name) = d at same
    generalize vs.find? (fun v => v.name == name) = v at same
    cases same with
    | some related => exact ⟨_, rfl, related⟩
    | none => exact ih

/-- A scope holds the names described first. -/
theorem holdsVariable_eq {vs : List Variable} (inside : Inside R s g scope (vs :: frames))
    (named : ∀ d v, R d v → d.name = v.name) (name : String) :
    s.holdsVariable scope name = vs.any fun v => v.name == name := by
  have any : ∀ {f : Frame}, List.Forall₂ R f.vars vs →
      (f.findVariable? name).isSome = vs.any fun v => v.name == name := by
    intro f bound
    have same := rel_find? named bound name
    rw [← List.isSome_find?, Frame.findVariable?]
    generalize f.vars.find? (fun d => d.name == name) = d at same
    generalize vs.find? (fun v => v.name == name) = v at same
    cases same <;> rfl
  cases inside with
  | global found bound => rw [holdsVariable, found, Option.any_some, any bound]
  | inner found _ _ bound => rw [holdsVariable, found, Option.any_some, any bound]

end Inside

end Space

end Primer
