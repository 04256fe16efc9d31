import Primer.Proofs.Grammar.Completeness
import Primer.Proofs.Grammar.Plain
import Primer.Proofs.Tree.Unplaced

/-!
# What a reader looks at

A reader looks at the tokens that it takes and at the next one, and at nothing else: not at where tokens
stand, and not at what comes later. Two lists of tokens may then differ in their offsets, and in all that
stands behind the point where a reading ends, and the reading comes to the same on both.

**The law** (`source_tracks`): let a reading of one list end with some tokens left, as many as a limit or
more, and let another list agree with the first up to that limit. The reading of the other list ends in
the same way, with the same issue or with the same tree up to offsets, and the tokens left agree again.
Without a limit this says that offsets do not matter; with the limit at the token where a reading ended,
that nothing behind that token does.

The token at the limit is only looked at. There it does not even matter which number an integer is.

Each reader has a case of its own. What carries the induction, on the number of tokens, is `Tracks`, a
relation of readers that is closed under reading one thing after another.
-/

namespace Primer

namespace Token

/-- That a reader cannot tell two tokens apart unless it takes them: they have the same kind and text, or
both are integers. -/
def Resembles (t t' : Token) : Prop :=
  t.unplaced = t'.unplaced ∨
    t.kind = .integer ∧ t'.kind = .integer ∧ t.literal ∉ Lexeme.vocabulary ∧ t'.literal ∉ Lexeme.vocabulary

theorem Resembles.kind_eq {t t' : Token} (resembles : t.Resembles t') : t.kind = t'.kind := by
  rcases resembles with same | ⟨kind, kind', -, -⟩
  · exact (unplaced_eq_iff.mp same).1
  · rw [kind, kind']

/-- Tokens that resemble each other are the same word or symbol, or none is. -/
theorem Resembles.literal_eq_iff {t t' : Token} {text : String} (resembles : t.Resembles t')
    (listed : text ∈ Lexeme.vocabulary) : t.literal = text ↔ t'.literal = text := by
  rcases resembles with same | ⟨-, -, other, other'⟩
  · rw [(unplaced_eq_iff.mp same).2]
  · exact ⟨fun is => absurd (is ▸ listed) other, fun is => absurd (is ▸ listed) other'⟩

end Token

namespace Reading

/-! ## Lists that agree -/

/-- That two lists agree as far as the first of them is no shorter than a limit, and in how the next
token looks. -/
inductive Agree (limit : Nat) : List Token → List Token → Prop
  | beyond {ts ts' : List Token} (far : ts.length < limit) : Agree limit ts ts'
  | nil : Agree limit [] []
  | cons {t t' : Token} {ts ts' : List Token} (resembles : t.Resembles t')
      (same : limit ≤ ts.length → t.unplaced = t'.unplaced) (others : Agree limit ts ts') :
      Agree limit (t :: ts) (t' :: ts')

/-- The tokens that were left when a reading ended. -/
def left? {α : Type} : Except ParseFailure (α × List Token) → Option (List Token)
  | .ok p => some p.2
  | .error (.unexpected _ rest) => some rest
  | .error _ => none

/-- That what a reading leaves is the end of the tokens that it began with. -/
def Leaves {α : Type} (ts : List Token) (r : Except ParseFailure (α × List Token)) : Prop :=
  ∀ rest ∈ left? r, rest <:+ ts

/-- That a reading which ends within the limit is followed by another one: they come to the same, up to
what `view` does not see of the value, and the tokens left agree. -/
def Follows {α γ : Type} (limit : Nat) (view : α → γ) (r r' : Except ParseFailure (α × List Token)) : Prop :=
  match r with
  | .ok (a, rest) =>
    limit ≤ rest.length → ∃ a' rest', r' = .ok (a', rest') ∧ view a = view a' ∧ Agree limit rest rest'
  | .error (.unexpected issue rest) =>
    limit ≤ rest.length → ∃ rest', r' = .error (.unexpected issue rest') ∧ Agree limit rest rest'
  | .error failure => limit = 0 → r' = .error failure

variable {α β γ δ : Type} {n limit : Nat} {view : α → γ} {sight : β → δ}

theorem Leaves.trans {ts ts' : List Token} {r : Except ParseFailure (α × List Token)} (leaves : Leaves ts r)
    (suffix : ts <:+ ts') : Leaves ts' r :=
  fun rest left => (leaves rest left).trans suffix

/-- A reading that began beyond the limit ends there. -/
theorem Leaves.follows {ts : List Token} {r : Except ParseFailure (α × List Token)} (leaves : Leaves ts r)
    (far : ts.length < limit) (r' : Except ParseFailure (α × List Token)) : Follows limit view r r' := by
  match r with
  | .ok (_, rest) =>
    intro near
    have shorter := (leaves rest rfl).length_le
    omega
  | .error (.unexpected _ rest) =>
    intro near
    have shorter := (leaves rest rfl).length_le
    omega
  | .error (.unreadableInteger _) => exact fun none => by omega
  | .error .unreadableDecimal => exact fun none => by omega

/-! ## Readers that track one another -/

/-- That one reader follows another on lists that agree, the first of at most `n` tokens. -/
structure Tracks (n : Nat) (view : α → γ) (m m' : Reader α) : Prop where
  leaves : ∀ ts : List Token, ts.length ≤ n → Leaves ts (m ts)
  follows : ∀ (limit : Nat) (ts ts' : List Token), ts.length ≤ n → limit ≤ ts.length → Agree limit ts ts' →
    Follows limit view (m ts) (m' ts')

/-- That a reader always takes a token. -/
def Takes (m : Reader α) : Prop :=
  ∀ ts a rest, m ts = .ok (a, rest) → rest.length < ts.length

theorem plain_takes (read : (ts : List Token) → Except ParseFailure (Parsed ts.length α)) :
    Takes (plain read) := by
  intro ts a rest taken
  obtain ⟨p, -, same⟩ := Except.map_eq_ok_iff.mp taken
  cases same
  exact p.fewer

namespace Tracks

theorem mono {k : Nat} {m m' : Reader α} (tracks : Tracks n view m m') (le : k ≤ n) : Tracks k view m m' where
  leaves ts short := tracks.leaves ts (short.trans le)
  follows limit ts ts' short := tracks.follows limit ts ts' (short.trans le)

/-- One reader after another. What follows the first may count on the number of tokens that are left. -/
theorem bindLeft {m m' : Reader α} {f f' : α → Reader β} (first : Tracks n view m m')
    (others : ∀ a ts rest, ts.length ≤ n → m ts = .ok (a, rest) → ∀ a', view a = view a' →
      Tracks rest.length sight (f a) (f' a')) : Tracks n sight (m >>= f) (m' >>= f') where
  leaves ts short := by
    rw [bind_apply]
    have left := first.leaves ts short
    cases read : m ts with
    | ok p =>
      rw [read] at left
      exact ((others p.1 ts p.2 short read p.1 rfl).leaves p.2 le_rfl).trans (left p.2 rfl)
    | error failure =>
      rw [read] at left
      exact fun rest stopped => left rest (by cases failure <;> exact stopped)
  follows limit ts ts' short near agree := by
    rw [bind_apply, bind_apply]
    have after := first.follows limit ts ts' short near agree
    match read : m ts with
    | .ok (a, rest) =>
      rw [read] at after
      by_cases within : limit ≤ rest.length
      · obtain ⟨a', rest', read', same, agree'⟩ := after within
        rw [read']
        exact (others a ts rest short read a' same).follows limit rest rest' le_rfl within agree'
      · have later := (others a ts rest short read a rfl).leaves rest le_rfl
        exact later.follows (Nat.lt_of_not_le within) _
    | .error (.unexpected issue rest) =>
      rw [read] at after
      intro within
      obtain ⟨rest', read', agree'⟩ := after within
      exact ⟨rest', by rw [read']; rfl, agree'⟩
    | .error (.unreadableInteger cause) =>
      rw [read] at after
      intro none
      rw [after none]
      rfl
    | .error .unreadableDecimal =>
      rw [read] at after
      intro none
      rw [after none]
      rfl

/-- One reader after another. -/
theorem bind {m m' : Reader α} {f f' : α → Reader β} (first : Tracks n view m m')
    (others : ∀ a a', view a = view a' → Tracks n sight (f a) (f' a')) : Tracks n sight (m >>= f) (m' >>= f') := by
  refine first.bindLeft fun a ts rest short read a' same => (others a a' same).mono ?_
  have left := first.leaves ts short
  rw [read] at left
  exact (left rest rfl).length_le.trans short

/-- One reader after another that takes something. -/
theorem after {m m' : Reader α} {f f' : α → Reader β} (first : Tracks n view m m') (takes : Takes m)
    (others : ∀ k < n, ∀ a a', view a = view a' → Tracks k sight (f a) (f' a')) :
    Tracks n sight (m >>= f) (m' >>= f') := by
  refine first.bindLeft fun a ts rest short read a' same => others rest.length ?_ a a' same
  exact Nat.lt_of_lt_of_le (takes ts a rest read) short

/-- One reader after another that takes something if it gives something. -/
theorem optional {view : Option α → γ} {m m' : Reader (Option α)} {f f' : Option α → Reader β}
    (first : Tracks n view m m')
    (apart : ∀ a, view (some a) ≠ view none)
    (takes : ∀ ts a rest, m ts = .ok (some a, rest) → rest.length < ts.length)
    (absent : Tracks n sight (f none) (f' none))
    (present : ∀ k < n, ∀ a a', view (some a) = view (some a') → Tracks k sight (f (some a)) (f' (some a'))) :
    Tracks n sight (m >>= f) (m' >>= f') := by
  refine first.bindLeft fun a ts rest short read a' same => ?_
  have left := first.leaves ts short
  rw [read] at left
  match a, a', same with
  | none, none, _ => exact absent.mono ((left rest rfl).length_le.trans short)
  | some a, some a', same => exact present _ (Nat.lt_of_lt_of_le (takes ts a rest read) short) a a' same
  | none, some a', same => exact absurd same.symm (apart a')
  | some a, none, same => exact absurd same (apart a)

theorem pure {a a' : α} (same : view a = view a') : Tracks n view (Pure.pure a) (Pure.pure a') where
  leaves ts _ _ left := Option.mem_some.mp left ▸ List.suffix_refl ts
  follows _ _ ts' _ _ agree := fun _ => ⟨a', ts', rfl, same, agree⟩

theorem refuse {issue : ParseIssue} : Tracks n view (Reading.refuse issue) (Reading.refuse issue) where
  leaves ts _ _ left := Option.mem_some.mp left ▸ List.suffix_refl ts
  follows _ _ ts' _ _ agree := fun _ => ⟨ts', rfl, agree⟩

end Tracks

/-! ## Single tokens -/

/-- What a reader makes of the next token: it takes it, leaves it alone, or ends there. -/
inductive Glance (α : Type) where
  | take (a : α)
  | stay (a : α)
  | refuse (issue : ParseIssue)
  | fail (cause : Numeral.Unreadable)
  | failDecimal

namespace Glance

/-- What is seen of a glance through a view of its value. -/
def map (view : α → γ) : Glance α → Glance γ
  | take a => take (view a)
  | stay a => stay (view a)
  | refuse issue => refuse issue
  | fail cause => fail cause
  | failDecimal => failDecimal

/-- What a glance at the first of some tokens comes to. -/
def outcome (t : Token) (rest : List Token) : Glance α → Except ParseFailure (α × List Token)
  | take a => .ok (a, rest)
  | stay a => .ok (a, t :: rest)
  | refuse issue => .error (.unexpected issue (t :: rest))
  | fail cause => .error (.unreadableInteger cause)
  | failDecimal => .error .unreadableDecimal

/-- Whether a glance leaves the token where it is. -/
def Idle : Glance α → Prop
  | stay _ => True
  | refuse _ => True
  | _ => False

theorem leaves (glance : Glance α) (t : Token) (rest : List Token) :
    Leaves (t :: rest) (glance.outcome t rest) := by
  intro left stopped
  cases glance with
  | take a => exact Option.mem_some.mp stopped ▸ List.suffix_cons t rest
  | stay a => exact Option.mem_some.mp stopped ▸ List.suffix_refl _
  | refuse issue => exact Option.mem_some.mp stopped ▸ List.suffix_refl _
  | fail cause => cases stopped
  | failDecimal => cases stopped

/-- A glance that takes nothing needs tokens that resemble each other, any other one the same token. -/
theorem follows {glance glance' : Glance α} {t t' : Token} {rest rest' : List Token}
    (near : limit ≤ rest.length + 1) (agree : Agree limit (t :: rest) (t' :: rest'))
    (idle : glance.Idle → glance.map view = glance'.map view)
    (same : limit ≤ rest.length → Agree limit rest rest' ∧ glance.map view = glance'.map view) :
    Follows limit view (glance.outcome t rest) (glance'.outcome t' rest') := by
  cases glance with
  | take a =>
    intro within
    obtain ⟨others, alike⟩ := same within
    cases glance' with
    | take a' => exact ⟨a', rest', rfl, take.inj alike, others⟩
    | _ => cases alike
  | stay a =>
    have alike := idle trivial
    cases glance' with
    | stay a' => exact fun _ => ⟨a', t' :: rest', rfl, stay.inj alike, agree⟩
    | _ => cases alike
  | refuse issue =>
    have alike := idle trivial
    cases glance' with
    | refuse issue' => exact fun _ => ⟨t' :: rest', by rw [refuse.inj alike]; rfl, agree⟩
    | _ => cases alike
  | fail cause =>
    intro none
    have alike := (same (by omega)).2
    cases glance' with
    | fail cause' => rw [fail.inj alike]; rfl
    | _ => cases alike
  | failDecimal =>
    intro none
    have alike := (same (by omega)).2
    cases glance' with
    | failDecimal => rfl
    | _ => cases alike

end Glance

/-- Readers that look at one token. At the end of the tokens they end too, or give a value. -/
theorem Tracks.glance {m : Reader α} (look : Token → Glance α)
    (atEnd : (∃ a, m [] = .ok (a, [])) ∨ ∃ issue, m [] = .error (.unexpected issue []))
    (atToken : ∀ t rest, m (t :: rest) = (look t).outcome t rest)
    (idle : ∀ t t' : Token, t.Resembles t' → (look t).Idle → (look t).map view = (look t').map view)
    (same : ∀ t t' : Token, t.unplaced = t'.unplaced → (look t).map view = (look t').map view) :
    Tracks n view m m where
  leaves ts _ := by
    cases ts with
    | nil =>
      rcases atEnd with ⟨a, read⟩ | ⟨issue, read⟩ <;> rw [read] <;>
        exact fun rest left => Option.mem_some.mp left ▸ List.suffix_refl _
    | cons t rest =>
      rw [atToken]
      exact (look t).leaves t rest
  follows limit ts ts' _ near agree := by
    cases agree with
    | beyond far => omega
    | nil =>
      rcases atEnd with ⟨a, read⟩ | ⟨issue, read⟩ <;> rw [read]
      · exact fun _ => ⟨a, [], rfl, rfl, .nil⟩
      · exact fun _ => ⟨[], rfl, .nil⟩
    | cons resembles alike others =>
      rw [atToken, atToken]
      exact Glance.follows near (.cons resembles alike others) (idle _ _ resembles)
        fun within => ⟨others, same _ _ (alike within)⟩

section

variable {t : Token} {text : String} {issue : ParseIssue} {level : Level}

theorem expect_tracks (listed : text ∈ Lexeme.vocabulary) :
    Tracks n Token.unplaced (plain (expect text issue)) (plain (expect text issue)) := by
  refine .glance (fun t => if t.literal = text then .take t else .refuse issue) (.inr ⟨issue, rfl⟩)
    (fun t rest => ?_) (fun t t' resembles idle => ?_) fun t t' same => ?_
  · rw [plain_expect]
    split <;> rfl
  · by_cases is : t.literal = text
    · simp [is, Glance.Idle] at idle
    · simp [is, (resembles.literal_eq_iff listed).not.mp is, Glance.map]
  · by_cases is : t.literal = text <;>
      simp [← (Token.unplaced_eq_iff.mp same).2, is, Glance.map, same]

theorem identifier_tracks : Tracks n id (plain (identifier issue)) (plain (identifier issue)) := by
  refine .glance (fun t => if t.kind = .identifier then .take t.literal else .refuse issue)
    (.inr ⟨issue, rfl⟩) (fun t rest => ?_) (fun t t' resembles idle => ?_) fun t t' same => ?_
  · rw [plain_identifier]
    split <;> rfl
  · by_cases is : t.kind = .identifier
    · simp [is, Glance.Idle] at idle
    · simp [is, resembles.kind_eq ▸ is, Glance.map]
  · obtain ⟨kind, literal⟩ := Token.unplaced_eq_iff.mp same
    by_cases is : t.kind = .identifier <;> simp [← kind, ← literal, is, Glance.map]

theorem take?_tracks (listed : text ∈ Lexeme.vocabulary) :
    Tracks n (Option.map Token.unplaced) (take? text) (take? text) := by
  refine .glance (fun t => if t.literal = text then .take (some t) else .stay none) (.inl ⟨none, rfl⟩)
    (fun t rest => ?_) (fun t t' resembles idle => ?_) fun t t' same => ?_
  · by_cases is : t.literal = text <;> simp [take?, accept?, is, Glance.outcome]
  · by_cases is : t.literal = text
    · simp [is, Glance.Idle] at idle
    · simp [is, (resembles.literal_eq_iff listed).not.mp is, Glance.map]
  · by_cases is : t.literal = text <;>
      simp [← (Token.unplaced_eq_iff.mp same).2, is, Glance.map, same]

theorem nextIs_tracks (listed : text ∈ Lexeme.vocabulary) : Tracks n id (nextIs text) (nextIs text) := by
  refine .glance (fun t => .stay (t.literal == text)) (.inl ⟨false, rfl⟩) (fun t rest => ?_)
    (fun t t' resembles _ => ?_) fun t t' same => ?_
  · by_cases is : t.literal = text <;> simp [nextIs, accept?, is, Glance.outcome]
  · by_cases is : t.literal = text
    · simp [Glance.map, is, (resembles.literal_eq_iff listed).mp is]
    · simp [Glance.map, is, (resembles.literal_eq_iff listed).not.mp is]
  · simp [Glance.map, (Token.unplaced_eq_iff.mp same).2]

/-- The word or symbol that a token is. -/
def wordOf? (t : Token) : Option String :=
  if t.literal ∈ Lexeme.vocabulary then some t.literal else none

theorem literal_eq_iff_of_wordOf? {t t' : Token} (same : wordOf? t = wordOf? t')
    (listed : text ∈ Lexeme.vocabulary) : t.literal = text ↔ t'.literal = text := by
  unfold wordOf? at same
  constructor
  · rintro rfl
    rw [if_pos listed] at same
    split at same
    next => exact (Option.some.inj same).symm
    next => cases same
  · rintro rfl
    rw [if_pos listed] at same
    split at same
    next => exact Option.some.inj same
    next => cases same

theorem peek_tracks : Tracks n (Option.map wordOf?) peek peek := by
  refine .glance (fun t => .stay (some t)) (.inl ⟨none, rfl⟩) (fun t rest => rfl)
    (fun t t' resembles _ => ?_) fun t t' same => ?_
  · rcases resembles with same | ⟨-, -, other, other'⟩
    · simp [Glance.map, wordOf?, (Token.unplaced_eq_iff.mp same).2]
    · simp [Glance.map, wordOf?, other, other']
  · simp [Glance.map, wordOf?, (Token.unplaced_eq_iff.mp same).2]

theorem operator?_eq_none (other : t.literal ∉ Lexeme.vocabulary) : level.operator? t = none := by
  rw [Level.operator?, List.find?_eq_none]
  intro op listed same
  exact other (eq_of_beq same ▸ symbol_mem_vocabulary listed)

theorem takeOperator?_tracks : Tracks n id (takeOperator? level) (takeOperator? level) := by
  have congr : ∀ t t' : Token, t.unplaced = t'.unplaced → level.operator? t = level.operator? t' := by
    intro t t' same
    simp only [Level.operator?, (Token.unplaced_eq_iff.mp same).2]
  refine .glance (fun t => (level.operator? t).elim (.stay none) fun op => .take (some op)) (.inl ⟨none, rfl⟩)
    (fun t rest => ?_) (fun t t' resembles _ => ?_) fun t t' same => ?_
  · simp only [takeOperator?]
    cases level.operator? t <;> rfl
  · rcases resembles with same | ⟨-, -, other, other'⟩
    · simp only [congr t t' same]
    · simp only [operator?_eq_none other, operator?_eq_none other']
  · simp only [congr t t' same]

/-- An opening without its place. -/
def Opening.unplaced : Opening → Opening
  | value e => value e.unplaced
  | paren _ => paren 0
  | name text _ => name text 0

/-- What the first token of a primary expression is taken for. -/
def openingOf (t : Token) : Glance Opening :=
  match literal? t [] with
  | some (.ok value) => .take (.value (.literal value t.offset))
  | some (.error (.unexpected issue _)) => .refuse issue
  | some (.error (.unreadableInteger cause)) => .fail cause
  | some (.error .unreadableDecimal) => .failDecimal
  | none =>
    if t.literal == "(" then .take (.paren t.offset)
    else if t.kind == .identifier then .take (.name t.literal t.offset)
    else .refuse .expression

theorem opening_cons (t : Token) (rest : List Token) : opening (t :: rest) = (openingOf t).outcome t rest := by
  unfold opening openingOf literal?
  dsimp only
  split_ifs
  all_goals try rfl
  all_goals
    cases t.kind with
    | integer => cases Numeral.read t.literal.toList <;> rfl
    | decimal => cases Decimal.read? t.literal.toList <;> rfl
    | character => rcases Text.unescape (inner t.literal) with _ | ⟨c, _ | _⟩ <;> rfl
    | _ => rfl

theorem openingOf_map_eq {t t' : Token} (same : t.unplaced = t'.unplaced) :
    (openingOf t).map Opening.unplaced = (openingOf t').map Opening.unplaced := by
  obtain ⟨kind, literal, offset⟩ := t
  obtain ⟨kind', literal', offset'⟩ := t'
  obtain ⟨rfl, rfl⟩ := Token.unplaced_eq_iff.mp same
  unfold openingOf literal?
  dsimp only
  split_ifs
  all_goals try rfl
  all_goals
    cases kind with
    | integer => cases Numeral.read literal.toList <;> rfl
    | decimal => cases Decimal.read? literal.toList <;> rfl
    | character => rcases Text.unescape (inner literal) with _ | ⟨c, _ | _⟩ <;> rfl
    | _ => rfl

theorem opening_takes : Takes opening := by
  intro ts first rest taken
  cases ts with
  | nil => cases taken
  | cons t ts =>
    rw [opening_cons] at taken
    have idle : ∀ first, openingOf t ≠ .stay first := by
      intro first
      unfold openingOf
      repeat' split
      all_goals simp
    cases look : openingOf t with
    | take a =>
      rw [look] at taken
      cases taken
      exact Nat.lt_succ_self _
    | stay a => exact absurd look (idle a)
    | _ =>
      rw [look] at taken
      cases taken

theorem opening_tracks : Tracks n Opening.unplaced opening opening := by
  refine .glance openingOf (.inr ⟨.expression, rfl⟩) opening_cons (fun t t' resembles idle => ?_)
    fun t t' same => openingOf_map_eq same
  rcases resembles with same | ⟨kind, -, other, -⟩
  · exact openingOf_map_eq same
  · obtain ⟨notNil, notTrue, notFalse, -⟩ := ne_of_not_mem_vocabulary other
    have taken : ¬ (openingOf t).Idle := by
      unfold openingOf literal?
      simp only [beq_eq_false_iff_ne.mpr notNil, beq_eq_false_iff_ne.mpr notTrue,
        beq_eq_false_iff_ne.mpr notFalse, kind]
      cases Numeral.read t.literal.toList <;> simp [Glance.Idle]
    exact absurd idle taken

end

/-! ## Optional tokens -/

section

variable {text : String} {level : Level}

theorem take?_then {f f' : Option Token → Reader β} (listed : text ∈ Lexeme.vocabulary)
    (absent : Tracks n sight (f none) (f' none))
    (present : ∀ k < n, ∀ t t' : Token, Tracks k sight (f (some t)) (f' (some t'))) :
    Tracks n sight (take? text >>= f) (take? text >>= f') := by
  refine (take?_tracks listed).optional (by simp) (fun ts t rest taken => ?_) absent
    fun k less t t' _ => present k less t t'
  rw [take?] at taken
  split at taken
  next => cases taken
  next p _ =>
    cases taken
    exact p.fewer

theorem takeOperator?_then {f f' : Option Operator → Reader β} (absent : Tracks n sight (f none) (f' none))
    (present : ∀ k < n, ∀ op, Tracks k sight (f (some op)) (f' (some op))) :
    Tracks n sight (takeOperator? level >>= f) (takeOperator? level >>= f') := by
  refine takeOperator?_tracks.optional (by simp) (fun ts op rest taken => ?_) absent
    fun k less op op' same => Option.some.inj same ▸ present k less op
  cases ts with
  | nil => cases taken
  | cons t ts =>
    rw [takeOperator?] at taken
    split at taken
    next => cases taken
    next =>
      cases taken
      exact Nat.lt_succ_self _

end

/-! ## Expressions -/

mutual
theorem operation_tracks (level : Level) (n : Nat) :
    Tracks n Expr.unplaced (plain (operation level)) (plain (operation level)) := by
  rw [plain_operation]
  exact (operand_tracks level n).after (plain_takes _) fun k less _ _ same => operations_tracks level k same
termination_by (n, 2 * level.rank + 1)
decreasing_by
  all_goals simp only [Prod.lex_def, true_and, Level.rank]
  all_goals omega

theorem operand_tracks (level : Level) (n : Nat) :
    Tracks n Expr.unplaced (plain (operand level)) (plain (operand level)) := by
  rw [plain_operand]
  cases level with
  | logical => exact operation_tracks .comparison n
  | comparison => exact operation_tracks .additive n
  | additive => exact operation_tracks .multiplicative n
  | multiplicative => exact secondary_tracks n
termination_by (n, 2 * level.rank)
decreasing_by
  all_goals simp only [Prod.lex_def, true_and, Level.rank]
  all_goals omega

theorem operations_tracks (level : Level) (n : Nat) {left left' : Expr}
    (same : left.unplaced = left'.unplaced) :
    Tracks n Expr.unplaced (plain (operations level left)) (plain (operations level left')) := by
  rw [plain_operations, plain_operations]
  refine takeOperator?_then (.pure same) fun k less op => ?_
  refine (operand_tracks level k).after (plain_takes _) fun j less' right right' same' => ?_
  exact operations_tracks level j (by simp [same, same'])
termination_by (n, 0)
decreasing_by
  all_goals simp only [Prod.lex_def, Level.rank]
  all_goals omega

theorem secondary_tracks (n : Nat) : Tracks n Expr.unplaced (plain secondary) (plain secondary) := by
  rw [plain_secondary]
  exact (primary_tracks n).after (plain_takes _) fun k less _ _ same => links_tracks k same
termination_by (n, 1)
decreasing_by
  all_goals simp only [Prod.lex_def, true_and]
  all_goals omega

theorem links_tracks (n : Nat) {receiver receiver' : Expr} (same : receiver.unplaced = receiver'.unplaced) :
    Tracks n Expr.unplaced (plain (links receiver)) (plain (links receiver')) := by
  rw [plain_links, plain_links]
  refine take?_then (by decide) (.pure same) fun k less _ _ => ?_
  refine identifier_tracks.after (plain_takes _) fun j less' name name' sameName => ?_
  obtain rfl : name = name' := sameName
  refine take?_then (by decide) (links_tracks j (by simp [same])) fun i lessI _ _ => ?_
  refine (arguments_tracks i).after (plain_takes _) fun h lessH args args' sameArgs => ?_
  exact links_tracks h (by simp [same, sameArgs])
termination_by (n, 0)
decreasing_by
  all_goals simp only [Prod.lex_def]
  all_goals omega

theorem arguments_tracks (n : Nat) : Tracks n Expr.unplacedAll (plain arguments) (plain arguments) := by
  rw [plain_arguments]
  exact take?_then (by decide) (argumentList_tracks n) fun _ _ _ _ => .pure rfl
termination_by (n, 11)
decreasing_by
  all_goals simp only [Prod.lex_def, true_and]
  all_goals omega

theorem argumentList_tracks (n : Nat) :
    Tracks n Expr.unplacedAll (plain argumentList) (plain argumentList) := by
  rw [plain_argumentList]
  refine (operation_tracks .logical n).after (plain_takes _) fun k less e e' same => ?_
  refine take?_then (by decide) ?_ fun _ _ _ _ => .pure (by simp [same])
  refine (expect_tracks (by decide)).after (plain_takes _) fun j less' _ _ _ => ?_
  exact (argumentList_tracks j).bind fun _ _ same' => .pure (by simp [same, same'])
termination_by (n, 10)
decreasing_by
  all_goals simp only [Prod.lex_def, true_and, Level.rank]
  all_goals omega

theorem primary_tracks (n : Nat) : Tracks n Expr.unplaced (plain primary) (plain primary) := by
  rw [plain_primary]
  refine opening_tracks.after opening_takes fun k less first first' same => ?_
  match first, first', same with
  | .value e, .value e', same => exact .pure (Opening.value.inj same)
  | .paren offset, .paren offset', _ =>
    refine (operation_tracks .logical k).bind fun e e' same => ?_
    exact (expect_tracks (by decide)).bind fun _ _ _ => .pure (by simp [same])
  | .name text offset, .name text' offset', same =>
    obtain rfl : text = text' := (Opening.name.inj same).1
    refine take?_then (by decide) (.pure rfl) fun j less' _ _ => ?_
    exact (arguments_tracks j).bind fun args args' same => .pure (by simp [same])
termination_by (n, 0)
decreasing_by
  all_goals simp only [Prod.lex_def, Level.rank]
  all_goals omega
end

theorem expression_tracks (n : Nat) : Tracks n Expr.unplaced (plain expression) (plain expression) :=
  operation_tracks .logical n

/-! ## Statements -/

theorem typeClause_tracks (n : Nat) : Tracks n id (plain typeClause) (plain typeClause) := by
  rw [plain_typeClause]
  refine take?_then (by decide) (.pure rfl) fun k _ _ _ => ?_
  exact identifier_tracks.bind fun _ _ same => .pure (congrArg some same)

theorem valueClause_tracks (n : Nat) :
    Tracks n (Option.map Expr.unplaced) (plain valueClause) (plain valueClause) := by
  rw [plain_valueClause]
  refine take?_then (by decide) (.pure rfl) fun k _ _ _ => ?_
  exact (expression_tracks k).bind fun _ _ same => .pure (congrArg some same)

theorem declaration_tracks (n : Nat) : Tracks n Stmt.unplaced (plain declaration) (plain declaration) := by
  rw [plain_declaration]
  refine (expect_tracks (by decide)).bind fun start start' _ => ?_
  refine identifier_tracks.bind fun name name' sameName => ?_
  refine (typeClause_tracks n).bind fun type type' sameType => ?_
  refine (valueClause_tracks n).bind fun value value' sameValue => ?_
  obtain rfl : name = name' := sameName
  obtain rfl : type = type' := sameType
  exact (expect_tracks (by decide)).bind fun _ _ _ => .pure (by simp [sameValue])

theorem assignment_tracks (n : Nat) : Tracks n Stmt.unplaced (plain assignment) (plain assignment) := by
  rw [plain_assignment]
  refine (expression_tracks n).bind fun target target' sameTarget => ?_
  refine (valueClause_tracks n).bind fun value value' sameValue => ?_
  refine (expect_tracks (by decide)).bind fun _ _ _ => ?_
  match value, value', sameValue with
  | none, none, _ => exact .pure (by simp [sameTarget])
  | some value, some value', sameValue =>
    have sameValue : value.unplaced = value'.unplaced := Option.some.inj sameValue
    exact .pure (by simp [sameTarget, sameValue])

theorem returning_tracks (n : Nat) : Tracks n Stmt.unplaced (plain returning) (plain returning) := by
  rw [plain_returning]
  refine (expect_tracks (by decide)).bind fun start start' _ => ?_
  refine (expression_tracks n).bind fun value value' sameValue => ?_
  exact (expect_tracks (by decide)).bind fun _ _ _ => .pure (by simp [sameValue])

theorem statementAt_eq_assignment {text : String} (other : text ∉ Lexeme.vocabulary) :
    statementAt text = plain assignment := by
  unfold statementAt
  split
  all_goals first
    | rfl
    | exact absurd (by decide) other

/-- Which statement is next is told by the word that is next. -/
theorem statementAt_eq {t? t?' : Option Token} (same : t?.map wordOf? = t?'.map wordOf?) :
    statementAt ((t?.map Token.literal).getD "") = statementAt ((t?'.map Token.literal).getD "") := by
  match t?, t?', same with
  | none, none, _ => rfl
  | some t, some t', same =>
    have sameWord : wordOf? t = wordOf? t' := Option.some.inj same
    change statementAt t.literal = statementAt t'.literal
    by_cases listed : t.literal ∈ Lexeme.vocabulary
    · rw [(literal_eq_iff_of_wordOf? sameWord listed).mp rfl]
    · have other : t'.literal ∉ Lexeme.vocabulary := fun listed' =>
        listed ((literal_eq_iff_of_wordOf? sameWord listed').mpr rfl ▸ listed')
      rw [statementAt_eq_assignment listed, statementAt_eq_assignment other]

mutual
theorem statement_tracks (n : Nat) : Tracks n Stmt.unplaced (plain statement) (plain statement) := by
  rw [plain_statement]
  refine peek_tracks.bind fun t? t?' same => ?_
  rw [← statementAt_eq same]
  unfold statementAt
  split
  · exact declaration_tracks n
  · exact conditional_tracks n
  · exact forEach_tracks n
  · exact whileLoop_tracks n
  · exact returning_tracks n
  · exact assignment_tracks n
termination_by (n, 1)
decreasing_by
  all_goals simp only [Prod.lex_def, true_and]
  all_goals omega

theorem conditional_tracks (n : Nat) : Tracks n Stmt.unplaced (plain conditional) (plain conditional) := by
  rw [plain_conditional]
  refine (expect_tracks (by decide)).after (plain_takes _) fun k less start start' _ => ?_
  refine (expression_tracks k).bind fun condition condition' sameCondition => ?_
  refine (expect_tracks (by decide)).bind fun _ _ _ => ?_
  refine (block_tracks ["ELSE", "END"] (by decide) k).bind fun thenPart thenPart' sameThen => ?_
  refine take?_then (by decide) ?_ fun j less' _ _ => ?_
  · exact (expect_tracks (by decide)).bind fun _ _ _ => .pure (by simp [sameCondition, sameThen])
  · refine (block_tracks ["END"] (by decide) j).bind fun elsePart elsePart' sameElse => ?_
    exact (expect_tracks (by decide)).bind fun _ _ _ => .pure (by simp [sameCondition, sameThen, sameElse])
termination_by (n, 0)
decreasing_by
  all_goals simp only [Prod.lex_def]
  all_goals omega

theorem forEach_tracks (n : Nat) : Tracks n Stmt.unplaced (plain forEach) (plain forEach) := by
  rw [plain_forEach]
  refine (expect_tracks (by decide)).after (plain_takes _) fun k less start start' _ => ?_
  refine identifier_tracks.bind fun name name' sameName => ?_
  refine (expect_tracks (by decide)).bind fun _ _ _ => ?_
  refine (expression_tracks k).bind fun iterable iterable' sameIterable => ?_
  refine (expect_tracks (by decide)).bind fun _ _ _ => ?_
  refine (block_tracks ["END"] (by decide) k).bind fun body body' sameBody => ?_
  obtain rfl : name = name' := sameName
  exact (expect_tracks (by decide)).bind fun _ _ _ => .pure (by simp [sameIterable, sameBody])
termination_by (n, 0)
decreasing_by
  all_goals simp only [Prod.lex_def]
  all_goals omega

theorem whileLoop_tracks (n : Nat) : Tracks n Stmt.unplaced (plain whileLoop) (plain whileLoop) := by
  rw [plain_whileLoop]
  refine (expect_tracks (by decide)).after (plain_takes _) fun k less start start' _ => ?_
  refine (expression_tracks k).bind fun condition condition' sameCondition => ?_
  refine (expect_tracks (by decide)).bind fun _ _ _ => ?_
  refine (block_tracks ["END"] (by decide) k).bind fun body body' sameBody => ?_
  exact (expect_tracks (by decide)).bind fun _ _ _ => .pure (by simp [sameCondition, sameBody])
termination_by (n, 0)
decreasing_by
  all_goals simp only [Prod.lex_def]
  all_goals omega

theorem block_tracks (stops : List String) (listed : stops ⊆ Lexeme.vocabulary) (n : Nat) :
    Tracks n Stmt.unplacedAll (plain (block stops)) (plain (block stops)) := by
  rw [plain_block]
  refine peek_tracks.bind fun t? t?' same => ?_
  match t?, t?', same with
  | none, none, _ => exact .refuse
  | some t, some t', same =>
    have sameWord : ∀ text ∈ stops, t.literal = text ↔ t'.literal = text := fun text mem =>
      literal_eq_iff_of_wordOf? (Option.some.inj same) (listed mem)
    by_cases stop : t.literal ∈ stops
    · have stop' : t'.literal ∈ stops := (sameWord _ stop).mp rfl ▸ stop
      simp only [if_pos stop, if_pos stop']
      exact .pure rfl
    · have go' : t'.literal ∉ stops := fun stop' => stop ((sameWord _ stop').mpr rfl ▸ stop')
      simp only [if_neg stop, if_neg go']
      refine (statement_tracks n).after (plain_takes _) fun k less s s' sameFirst => ?_
      exact (block_tracks stops listed k).bind fun ss ss' sameOthers => .pure (by simp [sameFirst, sameOthers])
termination_by (n, 2)
decreasing_by
  all_goals simp only [Prod.lex_def, true_and]
  all_goals omega
end

/-! ## Programs -/

theorem field_tracks (n : Nat) : Tracks n Field.unplaced (plain field) (plain field) := by
  rw [plain_field]
  refine (expect_tracks (by decide)).bind fun start start' _ => ?_
  refine identifier_tracks.bind fun name name' sameName => ?_
  refine (expect_tracks (by decide)).bind fun _ _ _ => ?_
  refine identifier_tracks.bind fun type type' sameType => ?_
  refine (valueClause_tracks n).bind fun value value' sameValue => ?_
  obtain rfl : name = name' := sameName
  obtain rfl : type = type' := sameType
  exact (expect_tracks (by decide)).bind fun _ _ _ => .pure (by simp [Field.unplaced, sameValue])

theorem paramList_tracks (n : Nat) : Tracks n id (plain paramList) (plain paramList) := by
  rw [plain_paramList]
  refine identifier_tracks.after (plain_takes _) fun k less name name' sameName => ?_
  refine (expect_tracks (by decide)).bind fun _ _ _ => ?_
  refine identifier_tracks.bind fun type type' sameType => ?_
  obtain rfl : name = name' := sameName
  obtain rfl : type = type' := sameType
  refine take?_then (by decide) (.pure rfl) fun j less' _ _ => ?_
  refine (paramList_tracks j).bind fun ps ps' same => ?_
  obtain rfl : ps = ps' := same
  exact .pure rfl
termination_by n
decreasing_by all_goals omega

theorem params_tracks (n : Nat) : Tracks n id (plain params) (plain params) := by
  rw [plain_params]
  refine (nextIs_tracks (by decide)).bind fun closing closing' same => ?_
  obtain rfl : closing = closing' := same
  cases closing with
  | true => exact .pure rfl
  | false => exact paramList_tracks n

theorem method_tracks (n : Nat) : Tracks n Method.unplaced (plain method) (plain method) := by
  rw [plain_method]
  refine (expect_tracks (by decide)).bind fun start start' _ => ?_
  refine identifier_tracks.bind fun name name' sameName => ?_
  refine (expect_tracks (by decide)).bind fun _ _ _ => ?_
  refine (params_tracks n).bind fun ps ps' sameParams => ?_
  refine (expect_tracks (by decide)).bind fun _ _ _ => ?_
  refine (typeClause_tracks n).bind fun result result' sameResult => ?_
  refine (expect_tracks (by decide)).bind fun _ _ _ => ?_
  refine (block_tracks ["END"] (by decide) n).bind fun body body' sameBody => ?_
  obtain rfl : name = name' := sameName
  obtain rfl : ps = ps' := sameParams
  obtain rfl : result = result' := sameResult
  exact (expect_tracks (by decide)).bind fun _ _ _ => .pure (by simp [Method.unplaced, sameBody])

theorem methods_tracks (n : Nat) :
    Tracks n (List.map Method.unplaced) (whole methods) (whole methods) := by
  rw [whole_methods]
  refine peek_tracks.bind fun t? t?' same => ?_
  match t?, t?', same with
  | none, none, _ => exact .pure rfl
  | some t, some t', same =>
    have sameWord : wordOf? t = wordOf? t' := Option.some.inj same
    have isLet : t.literal = "LET" ↔ t'.literal = "LET" := literal_eq_iff_of_wordOf? sameWord (by decide)
    have isDef : t.literal = "DEF" ↔ t'.literal = "DEF" := literal_eq_iff_of_wordOf? sameWord (by decide)
    simp only [beq_iff_eq, isLet, isDef]
    split
    next => exact .refuse
    next =>
    split
    next =>
      refine (method_tracks n).after (plain_takes _) fun k less m m' sameFirst => ?_
      exact (methods_tracks k).bind fun ms ms' sameOthers => .pure (by simp [sameFirst, sameOthers])
    next => exact .refuse
termination_by n
decreasing_by all_goals omega

theorem source_tracks (n : Nat) : Tracks n Source.unplaced (whole source) (whole source) := by
  rw [whole_source]
  refine peek_tracks.bind fun t? t?' same => ?_
  match t?, t?', same with
  | none, none, _ => exact .pure rfl
  | some t, some t', same =>
    have sameWord : wordOf? t = wordOf? t' := Option.some.inj same
    have isLet : t.literal = "LET" ↔ t'.literal = "LET" := literal_eq_iff_of_wordOf? sameWord (by decide)
    simp only [beq_iff_eq, isLet]
    split
    next =>
      refine (field_tracks n).after (plain_takes _) fun k less f f' sameFirst => ?_
      refine (source_tracks k).bind fun s s' sameOthers => .pure ?_
      simp only [Source.unplaced, Source.mk.injEq] at sameOthers ⊢
      simp [sameFirst, sameOthers]
    next =>
      refine (methods_tracks n).bind fun ms ms' same => .pure ?_
      simp [Source.unplaced, same]
termination_by n
decreasing_by all_goals omega

/-- The tokens at which the reading of a program is refused are the last ones of all. -/
theorem source_leaves {ts rest : List Token} {issue : ParseIssue}
    (refused : source ts = .error (.unexpected issue rest)) : rest <:+ ts :=
  (source_tracks ts.length).leaves ts le_rfl rest (by simp [whole, refused, Except.map, left?])

/-- Where the reading of a program is refused, so is that of tokens which agree up to there. -/
theorem source_refuses {limit : Nat} {ts ts' rest : List Token} {issue : ParseIssue}
    (refused : source ts = .error (.unexpected issue rest)) (within : limit ≤ rest.length)
    (agree : Agree limit ts ts') :
    ∃ rest', source ts' = .error (.unexpected issue rest') ∧ Agree limit rest rest' := by
  have near : limit ≤ ts.length := within.trans (source_leaves refused).length_le
  have follows := (source_tracks ts.length).follows limit ts ts' le_rfl near agree
  rw [whole, refused] at follows
  obtain ⟨rest', refused', agree'⟩ := follows within
  exact ⟨rest', Except.map_eq_error_iff.mp refused', agree'⟩

end Reading

end Primer
