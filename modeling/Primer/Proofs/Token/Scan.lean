import Primer.Proofs.Token.Front

/-!
# The steps of lexing

Lexing goes on step by step. A step takes a lexeme from the front of the text that is left and makes a token of
it, or none if the lexeme is blank; a minus that an operand ends in front of is taken alone. Lexing goes on for
as long as a lexeme is found, and then it has come to the end of the text or to the place of its error
(`LexState.exists_lex_eq`).

What holds of every step holds of the whole course. A step takes a stretch of text that is the literal of its
token or blank (`Step.spans`), and it does not look at the text behind that stretch (`Step.of_append`,
`Lexes.of_append`).
-/

namespace Primer

open Lexeme

/-- Where lexing has come to: the token made last, the offset, and the text that is left. -/
structure LexState where
  before : Option Token
  offset : Nat
  rest : List Char

namespace LexState

/-- The start of a text. -/
def start (text : List Char) : LexState where
  before := none
  offset := 0
  rest := text

/-- Whether a minus comes next that an operand ends in front of. -/
def subtracts (s : LexState) : Bool :=
  s.rest.head? == some '-' && s.before.any Token.endsOperand

/-- A minus that stands alone. -/
def minus (s : LexState) : Token where
  kind := .operator
  literal := "-"
  offset := s.offset

/-- The token made of the next characters, so many and of a shape. Blanks make none. -/
def token? (s : LexState) (shape : Shape) (n : Nat) : Option Token :=
  (kind? shape (String.ofList (s.rest.take n))).map fun kind =>
    { kind, literal := String.ofList (s.rest.take n), offset := s.offset }

/-- What comes after so many characters that made a token or none. -/
def advance (s : LexState) (token : Option Token) (n : Nat) : LexState where
  before := token.or s.before
  offset := s.offset + n
  rest := s.rest.drop n

/-- One step of lexing, with the token it makes. -/
inductive Step (s : LexState) : Option Token → LexState → Prop
  | minus (subtracts : s.subtracts) : Step s (some s.minus) (s.advance (some s.minus) 1)
  | lexeme {shape : Shape} {n : Nat} (plain : s.subtracts = false) (found : front? s.rest = some (shape, n)) :
      Step s (s.token? shape n) (s.advance (s.token? shape n) n)

/-- Some steps of lexing, with the tokens they make. -/
inductive Lexes : LexState → List Token → LexState → Prop
  | refl (s : LexState) : Lexes s [] s
  | step {s s' last : LexState} {token : Option Token} {tokens : List Token} (first : s.Step token s')
      (others : Lexes s' tokens last) : Lexes s (token.toList ++ tokens) last

variable {s s' last : LexState} {token : Option Token} {tokens : List Token}

/-! ## One step -/

theorem exists_rest_of_subtracts (subtracts : s.subtracts) :
    ∃ cs, s.rest = '-' :: cs ∧ s.before.any Token.endsOperand := by
  obtain ⟨isMinus, after⟩ := Bool.and_eq_true_iff.mp subtracts
  obtain ⟨cs, isRest⟩ := List.head?_eq_some_iff.mp (eq_of_beq isMinus)
  exact ⟨cs, isRest, after⟩

/-- The stretch of text that a step takes: the literal of its token, or blanks. -/
def Spans (offset : Nat) (taken : List Char) : Option Token → Prop
  | none => ∀ c ∈ taken, Text.isBlank c
  | some t => t.offset = offset ∧ t.literal.toList = taken

/-- A step takes a stretch of text that is the literal of its token or blank, and no more. -/
theorem Step.spans (step : s.Step token s') :
    ∃ taken, taken ≠ [] ∧ s = { s with rest := taken ++ s'.rest } ∧
      s' = { before := token.or s.before, offset := s.offset + taken.length, rest := s'.rest } ∧
      Spans s.offset taken token := by
  cases step with
  | minus subtracts =>
    obtain ⟨cs, isRest, -⟩ := exists_rest_of_subtracts subtracts
    refine ⟨['-'], List.cons_ne_nil _ _, ?_, rfl, rfl, (by decide : "-".toList = ['-'])⟩
    rw [advance, isRest, List.drop_succ_cons, List.drop_zero, List.singleton_append, ← isRest]
  | @lexeme shape n plain found =>
    have inside := length_le_of_front? found
    have fits := fits_of_front? shape n found
    refine ⟨s.rest.take n, ne_nil_of_fits fits, ?_, ?_, ?_⟩
    · rw [advance, List.take_append_drop]
    · rw [advance, List.length_take, Nat.min_eq_left inside]
    · unfold token?
      cases isKind : kind? shape (String.ofList (s.rest.take n)) with
      | some kind => exact ⟨rfl, String.toList_ofList⟩
      | none =>
        cases shape with
        | blank => exact fits.2
        | _ => cases isKind

/-- A step does not look at the text behind what it takes. -/
theorem Step.of_append {front front' rest : List Char} (step : s.Step token s')
    (isRest : s.rest = front ++ rest) (isRest' : s'.rest = front' ++ rest) :
    Step { s with rest := front } token { s' with rest := front' } := by
  have split : ∀ n, s.rest.drop n = front' ++ rest → n ≤ s.rest.length →
      n ≤ front.length ∧ front' = front.drop n ∧ s.rest.take n = front.take n := by
    intro n same inside
    have lengths := congrArg List.length same
    rw [isRest] at inside
    rw [isRest, List.length_drop] at lengths
    simp only [List.length_append] at lengths inside
    have within : n ≤ front.length := by omega
    rw [isRest, List.drop_append_of_le_length within] at same
    exact ⟨within, (List.append_cancel_right same).symm, by rw [isRest, List.take_append_of_le_length within]⟩
  have sameHead : ∀ n, 0 < n → n ≤ front.length → s.subtracts = subtracts { s with rest := front } := by
    intro n positive within
    have nonempty : front ≠ [] := List.length_pos_iff.mp (Nat.lt_of_lt_of_le positive within)
    obtain ⟨c, cs, rfl⟩ := List.exists_cons_of_ne_nil nonempty
    rw [subtracts, isRest]
    rfl
  cases step with
  | minus subtracts =>
    obtain ⟨cs, isMinus, -⟩ := exists_rest_of_subtracts subtracts
    obtain ⟨within, rfl, -⟩ := split 1 isRest' (by rw [isMinus]; exact Nat.succ_le_succ (Nat.zero_le _))
    exact .minus (sameHead 1 Nat.one_pos within ▸ subtracts)
  | @lexeme shape n plain found =>
    obtain ⟨within, rfl, taken⟩ := split n isRest' (length_le_of_front? found)
    have positive : 0 < n := by
      rw [Nat.pos_iff_ne_zero]
      rintro rfl
      exact ne_nil_of_fits (fits_of_front? shape 0 found) rfl
    have sameToken : token? { s with rest := front } shape n = s.token? shape n := by
      unfold token?
      rw [taken]
    rw [isRest] at found
    have step := Step.lexeme (s := { s with rest := front }) (sameHead n positive within ▸ plain)
      (front?_of_append found within)
    rw [sameToken] at step
    exact step

/-- A minus is always found. -/
theorem front?_minus_ne_none (cs : List Char) : front? ('-' :: cs) ≠ none := by
  intro nothing
  have symbol : Shape.symbol.Fits ['-'] := by
    change String.ofList ['-'] ∈ symbols
    decide
  exact front?_eq_none_iff.mp nothing .symbol ['-'] symbol ⟨cs, rfl⟩

theorem exists_step (found : front? s.rest ≠ none) : ∃ token s', s.Step token s' := by
  cases subtracts : s.subtracts with
  | true => exact ⟨_, _, .minus subtracts⟩
  | false =>
    obtain ⟨⟨shape, n⟩, found⟩ := Option.ne_none_iff_exists'.mp found
    exact ⟨_, _, .lexeme subtracts found⟩

/-- Lexing goes on with what a step leaves. -/
theorem Step.lexFrom_eq (step : s.Step token s') :
    lexFrom s.before s.offset s.rest =
      (lexFrom s'.before s'.offset s'.rest).map (token.toList ++ ·) := by
  obtain ⟨before, offset, rest⟩ := s
  cases step with
  | minus subtracts =>
    obtain ⟨cs, rfl, after⟩ := exists_rest_of_subtracts subtracts
    obtain ⟨⟨shape, n⟩, found⟩ := Option.ne_none_iff_exists'.mp (front?_minus_ne_none cs)
    change lexFrom before offset ('-' :: cs) = _
    rw [lexFrom.eq_def]
    dsimp only
    rw [found]
    dsimp only
    rw [if_pos (by simpa using after)]
    rfl
  | @lexeme shape n plain found =>
    have inside := length_le_of_front? found
    have nonempty := ne_nil_of_fits (fits_of_front? shape n found)
    cases rest with
    | nil => exact absurd List.take_nil nonempty
    | cons c cs =>
      cases n with
      | zero => exact absurd rfl nonempty
      | succ n =>
        have notMinus : (c == '-' && before.any Token.endsOperand) = false := plain
        change lexFrom before offset (c :: cs) = _
        rw [lexFrom.eq_def]
        dsimp only
        rw [found]
        simp only [notMinus, Bool.false_eq_true, if_false, Nat.add_sub_cancel, advance, token?,
          List.take_succ_cons, List.drop_succ_cons]
        cases kind? shape (String.ofList (c :: cs.take n)) with
        | none =>
          simp only [Option.map_none, Option.none_or, Option.toList_none, List.nil_append]
          exact (congrFun Except.map_id _).symm
        | some kind => rfl

/-! ## The whole course -/

theorem Lexes.lexFrom_eq (lexes : s.Lexes tokens last) :
    lexFrom s.before s.offset s.rest = (lexFrom last.before last.offset last.rest).map (tokens ++ ·) := by
  induction lexes with
  | refl s => exact (congrFun Except.map_id _).symm
  | step first _ ih =>
    rw [first.lexFrom_eq, ih]
    cases lexFrom _ _ _ with
    | error e => rfl
    | ok more => simp only [Except.map, List.append_assoc]

/-- Where nothing is found, the text has come to its end or is wrong. -/
theorem lexFrom_of_front?_eq_none (nothing : front? s.rest = none) :
    lexFrom s.before s.offset s.rest =
      match s.rest with
      | [] => .ok []
      | c :: _ => .error { issue := .ofChar c, offset := s.offset } := by
  rw [lexFrom.eq_def]
  cases isRest : s.rest with
  | nil => rfl
  | cons c cs =>
    rw [isRest] at nothing
    dsimp only
    rw [nothing]

/-- Lexing goes on until nothing is found. -/
theorem exists_lexes (s : LexState) : ∃ tokens last, s.Lexes tokens last ∧ front? last.rest = none := by
  cases found : front? s.rest with
  | none => exact ⟨[], s, .refl s, found⟩
  | some pair =>
    obtain ⟨token, s', step⟩ := exists_step (s := s) (by rw [found]; exact Option.some_ne_none _)
    obtain ⟨taken, nonempty, isState, -, -⟩ := step.spans
    have shorter : s'.rest.length < s.rest.length := by
      rw [isState, List.length_append]
      exact Nat.lt_add_of_pos_left (List.length_pos_iff.mpr nonempty)
    obtain ⟨tokens, last, lexes, nothing⟩ := exists_lexes s'
    exact ⟨_, last, .step step lexes, nothing⟩
termination_by s.rest.length

/-- Lexing a text comes to its end, or to the place of its error. -/
theorem exists_lex_eq (text : List Char) :
    ∃ tokens last, (start text).Lexes tokens last ∧ front? last.rest = none ∧
      lex text =
        match last.rest with
        | [] => .ok tokens
        | c :: _ => .error { issue := .ofChar c, offset := last.offset } := by
  obtain ⟨tokens, last, lexes, nothing⟩ := (start text).exists_lexes
  refine ⟨tokens, last, lexes, nothing, lexes.lexFrom_eq.trans ?_⟩
  rw [lexFrom_of_front?_eq_none nothing]
  cases last.rest with
  | nil => exact congrArg Except.ok (List.append_nil tokens)
  | cons c cs => rfl

theorem exists_lexes_of_lex_eq_ok {text : List Char} (lexed : lex text = .ok tokens) :
    ∃ last, (start text).Lexes tokens last := by
  obtain ⟨found, last, lexes, -, isLexed⟩ := exists_lex_eq text
  rw [lexed] at isLexed
  split at isLexed
  next =>
    cases isLexed
    exact ⟨last, lexes⟩
  next => cases isLexed

theorem lex_eq_ok_of_lexes {text : List Char} (lexes : (start text).Lexes tokens last) (atEnd : last.rest = []) :
    lex text = .ok tokens := by
  refine lexes.lexFrom_eq.trans ?_
  rw [atEnd, lexFrom.eq_def last.before]
  exact congrArg Except.ok (List.append_nil tokens)

theorem Lexes.exists_taken (lexes : s.Lexes tokens last) : ∃ taken, s.rest = taken ++ last.rest := by
  induction lexes with
  | refl s => exact ⟨[], rfl⟩
  | step first _ ih =>
    obtain ⟨taken, -, isState, -, -⟩ := first.spans
    obtain ⟨others, isRest⟩ := ih
    refine ⟨taken ++ others, ?_⟩
    rw [isState, isRest, List.append_assoc]

/-- The steps of lexing do not look at the text behind what they take. -/
theorem Lexes.of_append {taken : List Char} (lexes : s.Lexes tokens last) (isRest : s.rest = taken ++ last.rest) :
    Lexes { s with rest := taken } tokens { last with rest := [] } := by
  induction lexes generalizing taken with
  | refl s =>
    rw [List.append_left_eq_self.mp isRest.symm]
    exact .refl _
  | step first others ih =>
    obtain ⟨taken', isRest'⟩ := others.exists_taken
    exact .step (first.of_append isRest isRest') (ih isRest')

end LexState

end Primer
