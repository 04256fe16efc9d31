/-!
# Opening computations that can fail

A step that went through had parts that went through. These laws take such a step apart, so that the
proofs about readers and checks never unfold how failures are passed on.
-/

namespace Primer

theorem Except.map_eq_ok_iff {ε α β : Type} {f : α → β} {x : Except ε α} {b : β} :
    x.map f = .ok b ↔ ∃ a, x = .ok a ∧ f a = b := by
  cases x <;> simp [Except.map]

theorem Except.map_eq_error_iff {ε α β : Type} {f : α → β} {x : Except ε α} {e : ε} :
    x.map f = .error e ↔ x = .error e := by
  cases x <;> simp [Except.map]

theorem Except.bind_eq_ok_iff {ε α β : Type} {x : Except ε α} {f : α → Except ε β} {b : β} :
    x >>= f = .ok b ↔ ∃ a, x = .ok a ∧ f a = .ok b := by
  cases x <;> simp [bind, Except.bind]

@[simp]
theorem Except.ok_bind {ε α β : Type} (a : α) (f : α → Except ε β) : (Except.ok a >>= f) = f a :=
  rfl

/-- A step goes through if its first part does and what comes after it does, whatever it is given. -/
theorem Except.exists_bind_eq_ok_iff {ε α β : Type} {x : Except ε α} {f : α → Except ε β} {P : Prop}
    (others : ∀ a, (∃ b, f a = .ok b) ↔ P) : (∃ b, x >>= f = .ok b) ↔ (∃ a, x = .ok a) ∧ P := by
  cases x with
  | error e => simp [bind, Except.bind]
  | ok a => simpa using others a

theorem Except.exists_bind_pure_eq_ok_iff {ε α β : Type} {x : Except ε α} {f : α → β} :
    (∃ b, (x >>= fun a => pure (f a)) = .ok b) ↔ ∃ a, x = .ok a := by
  cases x with
  | error e => simp [bind, Except.bind]
  | ok a => exact ⟨fun _ => ⟨a, rfl⟩, fun _ => ⟨f a, rfl⟩⟩

theorem Except.exists_mapM_eq_ok_iff {ε α β : Type} {f : α → Except ε β} {as : List α} :
    (∃ bs, as.mapM f = .ok bs) ↔ ∀ a ∈ as, ∃ b, f a = .ok b := by
  induction as with
  | nil =>
    rw [List.mapM_nil]
    exact ⟨fun _ _ mem => (nomatch mem), fun _ => ⟨[], rfl⟩⟩
  | cons a as ih =>
    rw [List.mapM_cons, List.forall_mem_cons, ← ih]
    exact exists_bind_eq_ok_iff fun _ => exists_bind_pure_eq_ok_iff

/-- What is made of some things is made of one of them each. -/
theorem Except.exists_of_mem_of_mapM_eq_ok {ε α β : Type} {f : α → Except ε β} {as : List α} {bs : List β}
    (passed : as.mapM f = .ok bs) : ∀ b ∈ bs, ∃ a ∈ as, f a = .ok b := by
  induction as generalizing bs with
  | nil =>
    cases passed
    exact fun _ mem => nomatch mem
  | cons a as ih =>
    rw [List.mapM_cons] at passed
    obtain ⟨b, first, passed⟩ := Except.bind_eq_ok_iff.mp passed
    obtain ⟨bs, others, passed⟩ := Except.bind_eq_ok_iff.mp passed
    cases passed
    refine List.forall_mem_cons.mpr ⟨⟨a, List.mem_cons_self, first⟩, fun b mem => ?_⟩
    obtain ⟨a', inside, made⟩ := ih others b mem
    exact ⟨a', List.mem_cons_of_mem _ inside, made⟩

theorem Except.length_of_mapM_eq_ok {ε α β : Type} {f : α → Except ε β} {as : List α} {bs : List β}
    (passed : as.mapM f = .ok bs) : bs.length = as.length := by
  induction as generalizing bs with
  | nil =>
    cases passed
    rfl
  | cons a as ih =>
    rw [List.mapM_cons] at passed
    obtain ⟨b, -, passed⟩ := Except.bind_eq_ok_iff.mp passed
    obtain ⟨bs, others, passed⟩ := Except.bind_eq_ok_iff.mp passed
    cases passed
    rw [List.length_cons, List.length_cons, ih others]

end Primer
