import Primer.CommandLine.Program
import Primer.Proofs.Space.Growth

/-!
# Scopes are lexical environments

What a key means in a scope is told by the path from that scope to its root: the first frame on the way that holds the
key has the record, and no other frame matters. A definition in a frame is therefore seen, also in scopes that were
there before it, from wherever the path leads to that frame and no nearer one hides it.

**The law** (`every_space_is_lexical`) says this of every forest of scopes, for variables and functions alike, with what
a definition changes and what it leaves alone. Nothing is asked of the forest, so the law holds after any deeds. A
frame keeps what it holds (`held?_after`): what one deed keeps is kept by all that follow.

Variables and functions are looked up alike, so a key is of either sort, and so is a record.
-/

namespace Primer

/-- What a record is looked up by: a name alone, or a name and a number of arguments. -/
inductive Key where
  | name (text : String)
  | call (text : String) (arity : Nat)
deriving DecidableEq

/-- A record of either sort. -/
inductive Record where
  | ofVariable (v : Variable)
  | ofFunction (f : Function)
deriving DecidableEq

/-- The key that a record is bound to. -/
def Record.key : Record → Key
  | ofVariable v => .name v.name
  | ofFunction f => .call f.name f.arity

/-- The record that a frame binds to a key. -/
def Frame.find? (f : Frame) : Key → Option Record
  | .name text => (f.findVariable? text).map .ofVariable
  | .call text arity => (f.findFunction? text arity).map .ofFunction

namespace Space

/-- The record that the frame of a scope holds for a key, without its ancestors. -/
def held? (s : Space) (scope : ScopeId) (key : Key) : Option Record :=
  (s.frame? scope).bind fun f => f.find? key

/-- The record that a key means in a scope. -/
def lookup? (s : Space) (scope : ScopeId) : Key → Option Record
  | .name text => (s.lookupVariable? scope text).map .ofVariable
  | .call text arity => (s.lookupFunction? scope text arity).map .ofFunction

/-- Binds a record in the frame of a scope, unless that frame holds its key already. -/
def define? (s : Space) (scope : ScopeId) : Record → Option Space
  | .ofVariable v => s.defineVariable? scope v
  | .ofFunction f => s.defineFunction? scope f

/-- The scopes from one up to its root, the nearest first. -/
def path (s : Space) (scope : ScopeId) : List ScopeId :=
  match found : s.frames[scope]? with
  | none => []
  | some f =>
    match isParent : f.parent with
    | none => [scope]
    | some p =>
      have _ : p < scope := s.parent_lt scope f p found isParent
      scope :: path s p
termination_by scope

/-- That a scope sees the frame of another one when it looks for a key: the path leads there, and no nearer frame holds
the key. -/
def Sees (s : Space) (scope : ScopeId) (key : Key) (home : ScopeId) : Prop :=
  home ∈ s.path scope ∧ ∀ i ∈ (s.path scope).takeWhile (· ≠ home), s.held? i key = none

instance (s : Space) (scope : ScopeId) (key : Key) (home : ScopeId) : Decidable (s.Sees scope key home) :=
  inferInstanceAs (Decidable (_ ∧ _))

/-- What may be done with a forest of scopes. -/
inductive Deed where
  | root
  | child (scope : ScopeId)
  | define (scope : ScopeId) (r : Record)

/-- The forest after a deed. A definition that is refused changes nothing. -/
def perform (s : Space) : Deed → Space
  | .root => s.root.1
  | .child scope => (s.child scope).1
  | .define scope r => (s.define? scope r).getD s

/-- The forest after some deeds, one after the other. -/
def after (s : Space) (deeds : List Deed) : Space :=
  deeds.foldl perform s

variable {s s' : Space} {scope home : ScopeId} {key : Key} {r : Record} {f : Frame}

/-! ## Paths -/

theorem path_of_frame? (found : s.frame? scope = some f) :
    s.path scope = scope :: (f.parent.map s.path).getD [] := by
  rw [path]
  split
  next absent => exact absurd (found.symm.trans absent) (Option.some_ne_none f)
  next f' found' =>
    obtain rfl : f = f' := Option.some.inj (found.symm.trans found')
    split
    next orphan => simp [orphan]
    next p isParent => simp [isParent]

theorem path_of_absent (absent : s.frame? scope = none) : s.path scope = [] := by
  rw [path]
  split
  next => rfl
  next f found => exact absurd (found.symm.trans absent) (Option.some_ne_none f)

/-- A path is told by the parents of the frames up to its scope. -/
theorem path_congr (same : ∀ i ≤ scope, (s'.frame? i).map Frame.parent = (s.frame? i).map Frame.parent) :
    s'.path scope = s.path scope := by
  induction scope using Nat.strongRecOn with
  | ind scope ih =>
    have here := same scope (Nat.le_refl _)
    cases found : s.frame? scope with
    | none =>
      rw [found, Option.map_none, Option.map_eq_none_iff] at here
      rw [path_of_absent found, path_of_absent here]
    | some f =>
      rw [found, Option.map_some, Option.map_eq_some_iff] at here
      obtain ⟨f', found', parent⟩ := here
      rw [path_of_frame? found, path_of_frame? found', parent]
      cases isParent : f.parent with
      | none => rfl
      | some p =>
        have older := s.parent_lt scope f p found isParent
        rw [Option.map_some, Option.map_some, ih p older fun i le => same i (Nat.le_trans le (Nat.le_of_lt older))]

theorem exists_frame_of_mem_path {i : ScopeId} (mem : i ∈ s.path scope) : ∃ f, s.frame? i = some f := by
  induction scope using Nat.strongRecOn with
  | ind scope ih =>
    cases found : s.frame? scope with
    | none =>
      rw [path_of_absent found] at mem
      cases mem
    | some f =>
      rw [path_of_frame? found] at mem
      rcases List.mem_cons.mp mem with rfl | mem
      · exact ⟨f, found⟩
      · cases isParent : f.parent with
        | none =>
          rw [isParent] at mem
          cases mem
        | some p =>
          rw [isParent] at mem
          exact ih p (s.parent_lt scope f p found isParent) mem

/-- Whatever is looked for on the way up is looked for in one frame of the path after the other. -/
theorem findUp_eq_findSome?_path {α : Type} (s : Space) (pick : Frame → Option α) (scope : ScopeId) :
    s.findUp pick scope = (s.path scope).findSome? fun i => (s.frame? i).bind pick := by
  induction scope using Nat.strongRecOn with
  | ind scope ih =>
    rw [findUp_eq]
    cases found : s.frame? scope with
    | none => rw [path_of_absent found, Option.bind_none, List.findSome?_nil]
    | some f =>
      rw [path_of_frame? found, Option.bind_some, List.findSome?_cons, found, Option.bind_some]
      cases pick f with
      | some a => rfl
      | none =>
        cases isParent : f.parent with
        | none => rfl
        | some p => exact ih p (s.parent_lt scope f p found isParent)

theorem lookup?_eq_findSome?_path (s : Space) (scope : ScopeId) (key : Key) :
    s.lookup? scope key = (s.path scope).findSome? fun i => s.held? i key := by
  cases key with
  | name text =>
    rw [lookup?, lookupVariable?, findUp_eq_findSome?_path, List.map_findSome?]
    simp only [held?, Frame.find?, Function.comp_def, Option.map_bind]
  | call text arity =>
    rw [lookup?, lookupFunction?, findUp_eq_findSome?_path, List.map_findSome?]
    simp only [held?, Frame.find?, Function.comp_def, Option.map_bind]

/-- A frame of a path is seen if and only if the frames in front of it do not hold the key. -/
theorem lookup?_eq_some_iff :
    s.lookup? scope key = some r ↔ ∃ home, s.Sees scope key home ∧ s.held? home key = some r := by
  rw [lookup?_eq_findSome?_path]
  unfold Sees
  induction s.path scope with
  | nil => simp
  | cons i path ih =>
    rw [List.findSome?_cons]
    cases held : s.held? i key with
    | some r' =>
      constructor
      · rintro ⟨⟩
        exact ⟨i, by simp, held⟩
      · rintro ⟨home, ⟨-, hidden⟩, isHome⟩
        by_cases same : i = home
        · rw [← isHome, ← same, held]
        · have absent := hidden i (by simp [same])
          cases held.symm.trans absent
    | none =>
      rw [ih]
      refine exists_congr fun home => and_congr_left fun isHome => ?_
      have other : i ≠ home := by
        rintro rfl
        cases held.symm.trans isHome
      simp [other, other.symm, held]

/-! ## Definitions -/

theorem define?_eq_none_iff : s.define? home r = none ↔ s.held? home r.key ≠ none := by
  cases r with
  | ofVariable v =>
    have holds : s.holdsVariable home v.name = (s.held? home (.name v.name)).isSome := by
      unfold holdsVariable held?
      cases s.frame? home <;> simp [Frame.find?]
    simp [define?, defineVariable?, holds, Record.key, Option.isSome_iff_ne_none]
  | ofFunction g =>
    have holds : s.holdsFunction home g.name g.arity = (s.held? home (.call g.name g.arity)).isSome := by
      unfold holdsFunction held?
      cases s.frame? home <;> simp [Frame.find?]
    simp [define?, defineFunction?, holds, Record.key, Option.isSome_iff_ne_none]

/-- What a definition makes of the frames: one of them binds the record, and the others stay as they are. -/
theorem frame?_define (defined : s.define? home r = some s') (i : ScopeId) :
    s'.frame? i = if home = i then (s.frame? i).map fun f =>
        match r with
        | .ofVariable v => { f with vars := v :: f.vars }
        | .ofFunction g => { f with funs := g :: f.funs }
      else s.frame? i := by
  cases r with
  | ofVariable v =>
    rw [define?, defineVariable?] at defined
    split at defined
    next => cases defined
    next =>
      cases defined
      exact frame?_addVariable s home v i
  | ofFunction g =>
    rw [define?, defineFunction?] at defined
    split at defined
    next => cases defined
    next =>
      cases defined
      exact frame?_addFunction s home g i

theorem path_define (defined : s.define? home r = some s') (scope : ScopeId) : s'.path scope = s.path scope := by
  refine path_congr fun i _ => ?_
  rw [frame?_define defined]
  split
  next => cases s.frame? i <;> cases r <;> rfl
  next => rfl

/-- A definition binds its record to its key in the one frame, if there is such a frame, and nothing else to anything
else. -/
theorem held?_define (defined : s.define? home r = some s') (i : ScopeId) (key : Key) :
    s'.held? i key = if i = home ∧ key = r.key then (s.frame? i).map fun _ => r else s.held? i key := by
  unfold held?
  rw [frame?_define defined]
  by_cases same : home = i
  · simp only [same, if_pos, true_and]
    cases s.frame? i with
    | none => simp
    | some f =>
      rw [Option.map_some, Option.map_some, Option.bind_some, Option.bind_some]
      cases r with
      | ofVariable v =>
        cases key with
        | name text =>
          by_cases named : v.name = text
          · simp [Frame.find?, Frame.findVariable?, Record.key, named]
          · simp [Frame.find?, Frame.findVariable?, Record.key, named, Ne.symm named]
        | call => rfl
      | ofFunction g =>
        cases key with
        | name => rfl
        | call text arity =>
          by_cases named : g.name = text ∧ g.arity = arity
          · simp [Frame.find?, Frame.findFunction?, Record.key, named.1, named.2]
          · have other : ¬ (text = g.name ∧ arity = g.arity) := fun same => named ⟨same.1.symm, same.2.symm⟩
            have differs : (g.name == text && g.arity == arity) = false := by simpa using named
            simp [Frame.find?, Frame.findFunction?, Record.key, differs, other]
  · rw [if_neg same, if_neg fun here => same here.1.symm]

/-- Looking through a list after one of its places got a record: that record is found if nothing is found in front of
its place, and otherwise what was found before. -/
theorem findSome?_of_update {α β : Type} [DecidableEq α] {g g' : α → Option β} {home : α} {b : β} {path : List α}
    (update : ∀ i ∈ path, g' i = if i = home then some b else g i) :
    path.findSome? g' =
      if home ∈ path ∧ ∀ i ∈ path.takeWhile (· ≠ home), g i = none then some b else path.findSome? g := by
  induction path with
  | nil => simp
  | cons i path ih =>
    obtain ⟨here, there⟩ := List.forall_mem_cons.mp update
    rw [List.findSome?_cons, List.findSome?_cons, ih there, here]
    by_cases same : i = home
    · simp [same]
    · cases found : g i with
      | some a => simp [same, found]
      | none => simp [same, Ne.symm same, found]

theorem lookup?_define (defined : s.define? home r = some s') (scope : ScopeId) (key : Key) :
    s'.lookup? scope key = if key = r.key ∧ s.Sees scope key home then some r else s.lookup? scope key := by
  rw [lookup?_eq_findSome?_path, lookup?_eq_findSome?_path, path_define defined]
  simp only [held?_define defined]
  by_cases same : key = r.key
  · simp only [same, and_true, true_and, Sees]
    refine findSome?_of_update fun i mem => ?_
    obtain ⟨f, found⟩ := exists_frame_of_mem_path mem
    rw [found, Option.map_some]
  · simp only [same, and_false, false_and, if_false]

/-! ## New scopes -/

theorem held?_child (s : Space) (scope i : ScopeId) (key : Key) : (s.child scope).1.held? i key = s.held? i key := by
  unfold held?
  cases found : (s.child scope).1.frame? i with
  | none =>
    cases old : s.frame? i with
    | none => rfl
    | some f =>
      have grows : Grows (fun _ => False) s (s.child scope).1 := .of_child (.refl _ _)
      cases found.symm.trans (grows.frame?_eq id old)
  | some f =>
    rcases frame?_child_cases found with old | ⟨rfl, vars, funs⟩
    · rw [old]
    · rw [frame?_eq_none.mpr (Nat.le_refl _), Option.bind_some, Option.bind_none]
      cases key <;> simp [Frame.find?, Frame.findVariable?, Frame.findFunction?, vars, funs]

theorem held?_root (s : Space) (i : ScopeId) (key : Key) : s.root.1.held? i key = s.held? i key := by
  unfold held? root
  rw [frame?_push]
  split
  next last =>
    rw [frame?_eq_none.mpr (Nat.le_of_eq last.symm)]
    cases key <;> rfl
  next => rfl

/-- The path of a new scope goes on with that of the scope it is in, and the paths that were there stay. -/
theorem path_child (found : s.frame? scope = some f) (i : ScopeId) :
    (s.child scope).1.path i = if i = s.frames.size then i :: s.path scope else s.path i := by
  have old : ∀ i < s.frames.size, (s.child scope).1.path i = s.path i := by
    refine fun i known => path_congr fun j le => ?_
    rw [frame?_child found, if_neg (Nat.ne_of_lt (Nat.lt_of_le_of_lt le known))]
  have isFrame := frame?_child found i
  split
  next last =>
    rw [if_pos last] at isFrame
    rw [path_of_frame? isFrame, Option.map_some, Option.getD_some, old scope (frame?_lt found)]
  next notLast =>
    rw [if_neg notLast] at isFrame
    rcases Nat.lt_or_ge i s.frames.size with known | unknown
    · exact old i known
    · rw [frame?_eq_none.mpr unknown] at isFrame
      rw [path_of_absent isFrame, path_of_absent (frame?_eq_none.mpr unknown)]

/-- A new scope sees what the scope it is in sees, and the scopes that were there see what they saw. -/
theorem lookup?_child (found : s.frame? scope = some f) (i : ScopeId) (key : Key) :
    (s.child scope).1.lookup? i key = if i = s.frames.size then s.lookup? scope key else s.lookup? i key := by
  rw [lookup?_eq_findSome?_path, path_child found]
  simp only [held?_child]
  split
  next last =>
    have empty : s.held? i key = none := by
      rw [held?, frame?_eq_none.mpr (Nat.le_of_eq last.symm), Option.bind_none]
    rw [List.findSome?_cons, empty, lookup?_eq_findSome?_path]
  next => rw [lookup?_eq_findSome?_path]

/-! ## Deeds -/

/-- A deed takes nothing from a frame. -/
theorem held?_perform (held : s.held? home key = some r) (deed : Deed) : (s.perform deed).held? home key = some r := by
  cases deed with
  | root => rw [perform, held?_root, held]
  | child scope => rw [perform, held?_child, held]
  | define scope r' =>
    rw [perform]
    cases defined : s.define? scope r' with
    | none => exact held
    | some s' =>
      rw [Option.getD_some, held?_define defined, if_neg]
      · exact held
      · rintro ⟨rfl, rfl⟩
        rw [define?_eq_none_iff.mpr (by rw [held]; exact Option.some_ne_none r)] at defined
        cases defined

theorem held?_after (held : s.held? home key = some r) (deeds : List Deed) :
    (s.after deeds).held? home key = some r := by
  induction deeds generalizing s with
  | nil => exact held
  | cons deed deeds ih => exact ih (held?_perform held deed)

/-- A scope finds first what its own frame holds. -/
theorem lookup?_of_held? (held : s.held? home key = some r) : s.lookup? home key = some r := by
  obtain ⟨f, found, -⟩ := Option.bind_eq_some_iff.mp held
  refine lookup?_eq_some_iff.mpr ⟨home, ?_, held⟩
  rw [Sees, path_of_frame? found]
  simp

/-! ## The law -/

/-- That the scopes of a forest are lexical environments. -/
structure Lexical (s : Space) : Prop where
  /-- A key means the record of the nearest frame on the path that holds it. -/
  nearest : ∀ scope key r,
    s.lookup? scope key = some r ↔ ∃ home, s.Sees scope key home ∧ s.held? home key = some r
  /-- A key means nothing exactly where no frame on the path holds it. -/
  absent : ∀ scope key, s.lookup? scope key = none ↔ ∀ i ∈ s.path scope, s.held? i key = none
  /-- A new scope is one that had no path. Its path goes on with that of the scope around it, and all others stay. -/
  nested : ∀ scope < s.frames.size, s.path (s.child scope).2 = [] ∧ ∀ i,
    (s.child scope).1.path i = if i = (s.child scope).2 then i :: s.path scope else s.path i
  /-- A definition moves no path. -/
  unmoved : ∀ home r s', s.define? home r = some s' → ∀ scope, s'.path scope = s.path scope
  /-- A key means in a new scope what it means in the scope around it, and elsewhere what it meant. -/
  opened : ∀ scope < s.frames.size, ∀ i key,
    (s.child scope).1.lookup? i key = if i = (s.child scope).2 then s.lookup? scope key else s.lookup? i key
  /-- A definition is refused exactly if the frame itself holds the key, and then nothing changes. -/
  refused : ∀ home r,
    (s.define? home r = none ↔ s.held? home r.key ≠ none) ∧ (s.define? home r = none → s.perform (.define home r) = s)
  /-- Any other definition binds the record. Its key means the record in the scopes that see the frame when they look
  for the key, and in all else a key means what it meant. -/
  defined : ∀ home < s.frames.size, ∀ r s', s.define? home r = some s' →
    s.perform (.define home r) = s' ∧ s'.held? home r.key = some r ∧ ∀ scope key,
      s'.lookup? scope key = if key = r.key ∧ s.Sees scope key home then some r else s.lookup? scope key
  /-- Those scopes, and no others, find something else than before, provided that the record is new to the forest. -/
  changed : ∀ home r s', s.define? home r = some s' → (∀ i, s.held? i r.key ≠ some r) →
    ∀ scope key, s'.lookup? scope key ≠ s.lookup? scope key ↔ key = r.key ∧ s.Sees scope key home
  /-- A variable does not matter to calls. -/
  variableApart : ∀ home v s', s.defineVariable? home v = some s' → ∀ scope name arity,
    s'.lookupFunction? scope name arity = s.lookupFunction? scope name arity
  /-- A function does not matter to names that are not called, nor to other calls. -/
  functionApart : ∀ home f s', s.defineFunction? home f = some s' → ∀ scope name,
    s'.lookupVariable? scope name = s.lookupVariable? scope name ∧ ∀ arity, name ≠ f.name ∨ arity ≠ f.arity →
      s'.lookupFunction? scope name arity = s.lookupFunction? scope name arity
  /-- What a frame holds it holds after any deeds, and its scope finds it there. -/
  kept : ∀ home key r, s.held? home key = some r → ∀ deeds : List Deed,
    (s.after deeds).held? home key = some r ∧ (s.after deeds).lookup? home key = some r

/-- **Scopes.** Every forest of scopes is lexical, whatever was done with it before and is done with it after. -/
theorem every_space_is_lexical (s : Space) : s.Lexical where
  nearest _ _ _ := lookup?_eq_some_iff
  absent scope key := by rw [lookup?_eq_findSome?_path, List.findSome?_eq_none_iff]
  nested scope known := by
    rw [child_snd]
    exact ⟨path_of_absent (frame?_eq_none.mpr (Nat.le_refl _)), path_child (Array.getElem?_eq_getElem known)⟩
  unmoved _ _ _ := path_define
  opened scope known i key := by
    rw [child_snd]
    exact lookup?_child (Array.getElem?_eq_getElem known) i key
  refused home r := by
    refine ⟨define?_eq_none_iff, fun refused => ?_⟩
    rw [perform, refused, Option.getD_none]
  defined home known r s' defined := by
    have found : s.frame? home = some s.frames[home] := Array.getElem?_eq_getElem known
    refine ⟨?_, ?_, lookup?_define defined⟩
    · rw [perform, defined, Option.getD_some]
    · rw [held?_define defined, if_pos ⟨rfl, rfl⟩, found, Option.map_some]
  changed home r s' defined new scope key := by
    rw [lookup?_define defined]
    split
    next seen =>
      refine ⟨fun _ => seen, fun _ same => ?_⟩
      obtain ⟨i, -, held⟩ := lookup?_eq_some_iff.mp same.symm
      exact new i (seen.1 ▸ held)
    next unseen => exact ⟨fun differs => absurd rfl differs, fun seen => absurd seen unseen⟩
  variableApart home v s' defined scope name arity := by
    have same := lookup?_define (r := .ofVariable v) defined scope (.call name arity)
    rw [if_neg fun new => Key.noConfusion new.1] at same
    exact Option.map_injective (fun _ _ => Record.ofFunction.inj) same
  functionApart home f s' defined scope name := by
    have lookup := lookup?_define (r := .ofFunction f) defined scope
    refine ⟨?_, fun arity other => ?_⟩
    · have same := lookup (.name name)
      rw [if_neg fun new => Key.noConfusion new.1] at same
      exact Option.map_injective (fun _ _ => Record.ofVariable.inj) same
    · have same := lookup (.call name arity)
      have apart : Key.call name arity ≠ (Record.ofFunction f).key := by
        rintro ⟨⟩
        exact other.elim (· rfl) (· rfl)
      rw [if_neg fun new => apart new.1] at same
      exact Option.map_injective (fun _ _ => Record.ofFunction.inj) same
  kept home key r held deeds := by
    have still := held?_after held deeds
    exact ⟨still, lookup?_of_held? still⟩

/-- The scope around programs and two scopes in it. One of them binds `x` and has another scope in it. -/
def forked : Space :=
  after CommandLine.rootWorld.1.space
    [.child 0, .child 1, .child 0, .define 1 (.ofVariable ⟨1, "x", .integer, "x"⟩)]

/-- When the scope around them binds `x` last of all, the one scope sees it, and from the other it stays hidden. -/
theorem late_definition_is_seen_unless_hidden :
    let late : Record := .ofVariable ⟨2, "x", .string, "x"⟩
    let inner : Record := .ofVariable ⟨1, "x", .integer, "x"⟩
    (forked.lookup? 2 (.name "x") = some inner ∧ forked.lookup? 3 (.name "x") = none) ∧
      ∃ s', forked.define? 0 late = some s' ∧
        s'.lookup? 2 (.name "x") = some inner ∧ s'.lookup? 3 (.name "x") = some late := by
  intro late inner
  have law := every_space_is_lexical forked
  have known : 0 < forked.frames.size := by decide +kernel
  have hidden : ¬ forked.Sees 2 (.name "x") 0 := by decide +kernel
  have seen : forked.Sees 3 (.name "x") 0 := by decide +kernel
  have before : forked.lookup? 2 (.name "x") = some inner :=
    (law.nearest 2 _ _).mpr ⟨1, by decide +kernel, by decide +kernel⟩
  have nothing : forked.lookup? 3 (.name "x") = none := (law.absent 3 _).mpr (by decide +kernel)
  obtain ⟨s', defined⟩ : ∃ s', forked.define? 0 late = some s' := Option.isSome_iff_exists.mp (by decide +kernel)
  obtain ⟨-, -, lookup⟩ := law.defined 0 known late s' defined
  refine ⟨⟨before, nothing⟩, s', defined, ?_, ?_⟩
  · rw [lookup, if_neg fun new => hidden new.2, before]
  · rw [lookup, if_pos ⟨rfl, seen⟩]

end Space

end Primer
