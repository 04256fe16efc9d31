import Primer.Proofs.Token.WellFormed
import Primer.Proofs.Tree.Solid

/-!
# Texts that are laid out

A text is laid out when its braces are nested and its lines are indented by them (`LaidOut`). Braces inside literals do
not count, no literal goes on over the end of a line, and a line begins with four blanks for each brace that is open
where it begins, or for each but one if the line closes one.

A cursor goes over a text once, from left to right. It knows how many braces are open, whether it is in a literal, and
in the blanks at the beginning of a line how many there were. It stops where the text is not laid out, so a text over
which it comes to the end is laid out (`LaidOut.of_moves`). What a cursor does over two texts in a row is what it does
over the first and then over the second, and that is how printed texts are put together.
-/

namespace Primer

namespace Java

/-! ## What a layout is -/

/-- What a place of a text is in: code, a literal between some quotes, or such a literal right behind a backslash. -/
inductive Spot where
  | code
  | literal (quote : Char)
  | escape (quote : Char)

/-- A place of a text: what it is in, and how many braces are open. -/
structure Place where
  spot : Spot := .code
  braces : Nat := 0

/-- The place behind a character. There is none behind a brace that closes nothing, and none behind the end of a line in
a literal. -/
def Place.step? (p : Place) (c : Char) : Option Place :=
  match p.spot with
  | .code =>
    match c with
    | '\x22' | '\x27' => some { p with spot := .literal c }
    | '\x7b' => some { p with braces := p.braces + 1 }
    | '\x7d' =>
      match p.braces with
      | 0 => none
      | braces + 1 => some { p with braces }
    | _ => some p
  | .literal quote =>
    match c with
    | '\n' => none
    | '\\' => some { p with spot := .escape quote }
    | _ => if c == quote then some { p with spot := .code } else some p
  | .escape quote =>
    match c with
    | '\n' => none
    | _ => some { p with spot := .literal quote }

/-- The place behind a text. -/
def place? (text : List Char) : Option Place :=
  text.foldlM Place.step? {}

/-- That a text is a line, given what stands before it and after it. -/
structure IsLine (before line after : List Char) : Prop where
  starts : before = [] ∨ before.getLast? = some '\n'
  inside : '\n' ∉ line
  ends : after = [] ∨ after.head? = some '\n'

/-- How many braces the indentation of a line counts, if so many are open where it begins. -/
def lineDepth (braces : Nat) (line : List Char) : Nat :=
  match (line.dropWhile (· == ' ')).head? with
  | some '\x7d' => braces - 1
  | _ => braces

theorem lineDepth_cons_blank (braces : Nat) (line : List Char) :
    lineDepth braces (' ' :: line) = lineDepth braces line :=
  rfl

theorem lineDepth_cons {c : Char} (isFirst : c ≠ ' ') (braces : Nat) (line : List Char) :
    lineDepth braces (c :: line) = lineDepth braces [c] := by
  simp [lineDepth, isFirst]

/-- That the braces of a text are nested, no literal goes on over the end of a line, and all lines that are not empty
are indented by four blanks a brace. -/
structure LaidOut (text : List Char) : Prop where
  nested : place? text = some {}
  indented : ∀ before line after, text = before ++ line ++ after → IsLine before line after → line ≠ [] →
    ∃ p, place? before = some p ∧ p.spot = .code ∧ (line.takeWhile (· == ' ')).length = 4 * lineDepth p.braces line

/-! ## Cursors -/

/-- A cursor: in the margin of a line, behind some blanks, or inside a line. -/
inductive Cursor where
  | margin (braces column : Nat)
  | inside (place : Place)

namespace Cursor

/-- Where a cursor is in code, with so many braces open. -/
abbrev within (braces : Nat) : Cursor :=
  inside { braces }

/-- The place of a cursor. -/
def place : Cursor → Place
  | margin braces _ => { braces }
  | inside p => p

/-- The cursor behind a character. It leaves the margin with as many blanks as the line has to have, and an empty line
has none. -/
def step? (cursor : Cursor) (c : Char) : Option Cursor :=
  match cursor with
  | margin braces column =>
    match c with
    | '\n' => if column = 0 then some (margin braces 0) else none
    | ' ' => some (margin braces (column + 1))
    | _ => if column = 4 * lineDepth braces [c] then (Place.step? { braces } c).map inside else none
  | inside p =>
    match c with
    | '\n' => (p.step? c).map fun p => margin p.braces 0
    | _ => (p.step? c).map inside

theorem step?_margin_of_ne {braces column : Nat} {c : Char} (notEnd : c ≠ '\n') (notBlank : c ≠ ' ') :
    step? (margin braces column) c =
      if column = 4 * lineDepth braces [c] then (Place.step? { braces } c).map inside else none := by
  dsimp only [step?]
  split
  next => exact absurd rfl notEnd
  next => exact absurd rfl notBlank
  next => rfl

theorem step?_inside_of_ne {p : Place} {c : Char} (notEnd : c ≠ '\n') :
    step? (inside p) c = (p.step? c).map inside := by
  dsimp only [step?]
  split
  next => exact absurd rfl notEnd
  next => rfl

end Cursor

open Cursor

/-- That a cursor goes over a text. -/
def Moves (c : Cursor) (text : List Char) (c' : Cursor) : Prop :=
  text.foldlM Cursor.step? c = some c'

namespace Moves

variable {c c' c'' : Cursor} {us vs : List Char} {ch : Char} {braces : Nat}

theorem nil (c : Cursor) : Moves c [] c :=
  rfl

theorem cons_iff : Moves c (ch :: us) c'' ↔ ∃ c', c.step? ch = some c' ∧ Moves c' us c'' := by
  rw [Moves, List.foldlM_cons]
  exact Option.bind_eq_some_iff

theorem append_iff : Moves c (us ++ vs) c'' ↔ ∃ c', Moves c us c' ∧ Moves c' vs c'' := by
  rw [Moves, List.foldlM_append]
  exact Option.bind_eq_some_iff

theorem append (first : Moves c us c') (second : Moves c' vs c'') : Moves c (us ++ vs) c'' :=
  append_iff.mpr ⟨c', first, second⟩

theorem flatMap {α : Type} {xs : List α} {f : α → List Char} (each : ∀ x ∈ xs, Moves c (f x) c) :
    Moves c (xs.flatMap f) c := by
  induction xs with
  | nil => exact nil c
  | cons x xs ih =>
    obtain ⟨first, others⟩ := List.forall_mem_cons.mp each
    exact first.append (ih others)

end Moves

/-! ## What a cursor finds -/

theorem place_step? {c c' : Cursor} {ch : Char} (step : c.step? ch = some c') :
    c.place.step? ch = some c'.place := by
  unfold Cursor.step? at step
  split at step
  next braces column =>
    split at step
    next =>
      split at step
      next =>
        cases step
        rfl
      next => cases step
    next =>
      cases step
      rfl
    next =>
      split at step
      next =>
        obtain ⟨p, isPlace, rfl⟩ := Option.map_eq_some_iff.mp step
        exact isPlace
      next => cases step
  next p =>
    split at step
    next =>
      obtain ⟨p', isPlace, rfl⟩ := Option.map_eq_some_iff.mp step
      -- The end of a line can only stand in code.
      obtain ⟨spot, braces⟩ := p
      cases spot with
      | code =>
        cases isPlace
        rfl
      | literal | escape => cases isPlace
    next =>
      obtain ⟨p', isPlace, rfl⟩ := Option.map_eq_some_iff.mp step
      exact isPlace

theorem Moves.place {c c' : Cursor} {text : List Char} (moves : Moves c text c') :
    text.foldlM Place.step? c.place = some c'.place := by
  induction text generalizing c with
  | nil =>
    cases moves
    rfl
  | cons ch text ih =>
    obtain ⟨next, step, moves⟩ := Moves.cons_iff.mp moves
    rw [List.foldlM_cons, place_step? step]
    exact ih moves

/-- A cursor begins a line in the margin. -/
theorem Moves.exists_margin {before : List Char} {c : Cursor} (moves : Moves (margin 0 0) before c)
    (starts : before = [] ∨ before.getLast? = some '\n') : ∃ braces, c = margin braces 0 := by
  rcases starts with rfl | isEnd
  · cases moves
    exact ⟨0, rfl⟩
  · obtain ⟨us, rfl⟩ := List.getLast?_eq_some_iff.mp isEnd
    obtain ⟨last, -, moves⟩ := Moves.append_iff.mp moves
    obtain ⟨next, step, moves⟩ := Moves.cons_iff.mp moves
    cases moves
    cases last with
    | margin braces column =>
      change (if column = 0 then some (margin braces 0) else none) = some c at step
      split at step
      next => exact ⟨braces, (Option.some.inj step).symm⟩
      next => cases step
    | inside p =>
      obtain ⟨p', -, rfl⟩ := Option.map_eq_some_iff.mp step
      exact ⟨p'.braces, rfl⟩

/-- A cursor leaves the margin behind the blanks that the line has to have. -/
theorem Moves.indented {line after : List Char} {braces column : Nat} {p : Place}
    (moves : Moves (margin braces column) (line ++ after) (inside p)) (oneLine : '\n' ∉ line)
    (ends : after = [] ∨ after.head? = some '\n') (some : 0 < column ∨ line ≠ []) :
    column + (line.takeWhile (· == ' ')).length = 4 * lineDepth braces line := by
  induction line generalizing column with
  | nil =>
    have indented : 0 < column := some.resolve_right fun nonempty => nonempty rfl
    rcases ends with rfl | isEnd
    · cases moves
    · obtain ⟨rest, rfl⟩ := List.head?_eq_some_iff.mp isEnd
      obtain ⟨next, step, -⟩ := Moves.cons_iff.mp moves
      change (if column = 0 then Option.some (margin braces 0) else none) = Option.some next at step
      rw [if_neg (Nat.ne_of_gt indented)] at step
      cases step
  | cons ch line ih =>
    obtain ⟨notEnd, others⟩ := not_or.mp (mt List.mem_cons.mpr oneLine)
    obtain ⟨next, step, moves⟩ := Moves.cons_iff.mp moves
    by_cases isBlank : ch = ' '
    · subst isBlank
      cases step
      have later := ih moves others (.inl (Nat.succ_pos column))
      rw [List.takeWhile_cons_of_pos rfl, List.length_cons, lineDepth_cons_blank]
      omega
    · rw [step?_margin_of_ne (Ne.symm notEnd) isBlank] at step
      split at step
      next isColumn =>
        have stops : (ch :: line).takeWhile (· == ' ') = [] := by simp [isBlank]
        rw [stops, List.length_nil, lineDepth_cons isBlank, isColumn, Nat.add_zero]
      next => cases step

/-- A text over which a cursor comes to the end, with no brace open there, is laid out. -/
theorem LaidOut.of_moves {text : List Char} (moves : Moves (margin 0 0) text (within 0)) : LaidOut text where
  nested := moves.place
  indented before line after same isLine nonempty := by
    rw [same, List.append_assoc] at moves
    obtain ⟨c, toLine, onward⟩ := Moves.append_iff.mp moves
    obtain ⟨braces, rfl⟩ := toLine.exists_margin isLine.starts
    have indented := onward.indented isLine.inside isLine.ends (.inr nonempty)
    rw [Nat.zero_add] at indented
    exact ⟨{ braces }, toLine.place, rfl, indented⟩

end Java

end Primer
