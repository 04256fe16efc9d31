import Primer.Proofs.Check.Culprits
import Primer.Proofs.Grammar.Offsets
import Primer.Proofs.Grammar.Refusal
import Primer.Proofs.Token.Cover
import Primer.Report

/-!
# Reported positions lie in the text

What is wrong with a text is reported with an offset into it. An error of lexing lies at a character; one of the
grammar lies at a token, or behind the last one; a complaint lies at the first token of a phrase, or at the very
beginning if it is about the program as a whole.

**The law** (`reported_offsets_lie_in_the_text`): no reported offset is beyond the end of the text. A picture can only
point at a character, so the end itself is moved to the last character, and no other reported offset is moved.
-/

namespace Primer

/-! ## Tokens -/

/-- The tokens found in a text cover it, up to the place of the error if there is one. -/
theorem exists_covers_lex (text : List Char) :
    ∃ taken rest tokens, text = taken ++ rest ∧ Covers 0 taken tokens ∧
      lex text =
        match rest with
        | [] => .ok tokens
        | c :: _ => .error { issue := .ofChar c, offset := taken.length } := by
  obtain ⟨tokens, last, lexes, -, isLexed⟩ := LexState.exists_lex_eq text
  obtain ⟨taken, isText⟩ := lexes.exists_taken
  obtain ⟨isOffset, covers⟩ := lexes.covers isText
  change last.offset = 0 + taken.length at isOffset
  rw [isOffset, Nat.zero_add] at isLexed
  exact ⟨taken, last.rest, tokens, isText, covers, isLexed⟩

theorem covers_of_lex_eq_ok {text : List Char} {tokens : List Token} (lexed : lex text = .ok tokens) :
    Covers 0 text tokens := by
  obtain ⟨taken, rest, found, isText, covers, isLexed⟩ := exists_covers_lex text
  rw [lexed] at isLexed
  cases rest with
  | nil =>
    cases isLexed
    rwa [isText, List.append_nil]
  | cons => cases isLexed

theorem offset_lt_of_lex_eq_error {text : List Char} {e : LexError} (refused : lex text = .error e) :
    e.offset < text.length := by
  obtain ⟨taken, rest, found, isText, -, isLexed⟩ := exists_covers_lex text
  rw [refused] at isLexed
  cases rest with
  | nil => cases isLexed
  | cons c rest =>
    cases isLexed
    rw [isText, List.length_append, List.length_cons]
    exact Nat.lt_add_of_pos_right (Nat.succ_pos _)

/-- A token ends within the text it covers. -/
theorem Covers.stop_le {text : List Char} {tokens : List Token} {t : Token} (covers : Covers 0 text tokens)
    (mem : t ∈ tokens) : t.stop ≤ text.length := by
  obtain ⟨fore, aft, rfl, isOffset⟩ := covers.exists_append mem
  rw [Token.stop, isOffset, List.length_append, List.length_append, String.length_toList]
  omega

theorem Covers.offset_le {text : List Char} {tokens : List Token} {t : Token} (covers : Covers 0 text tokens)
    (mem : t ∈ tokens) : t.offset ≤ text.length :=
  Nat.le_trans (Nat.le_add_right _ _) (covers.stop_le mem)

/-! ## Errors of the grammar -/

theorem offsetOf_le {text : List Char} {us rest : List Token} (covers : Covers 0 text (us ++ rest)) :
    offsetOf (us ++ rest) rest ≤ text.length := by
  cases rest with
  | cons t more => exact covers.offset_le (by simp)
  | nil =>
    rw [List.append_nil] at covers ⊢
    unfold offsetOf
    cases isLast : us.getLast? with
    | none => exact Nat.zero_le _
    | some last => exact covers.stop_le (List.mem_of_getLast? isLast)

theorem offset_le_of_parseText_eq_error {text : List Char} {e : TextError}
    (refused : parseText text = .error (.error e)) : e.offset ≤ text.length := by
  unfold parseText at refused
  split at refused
  next failed =>
    cases refused
    exact Nat.le_of_lt (offset_lt_of_lex_eq_error failed)
  next tokens lexed =>
    obtain ⟨issue, rest, read, located⟩ := exists_refusal refused
    obtain ⟨us, rfl, -⟩ := Reading.viable_of_refused (lex_wellFormed lexed) read
    rw [located]
    exact offsetOf_le (covers_of_lex_eq_ok lexed)

/-! ## Complaints -/

namespace Source.Stands

variable {At : Nat → Prop} {s : Source}

theorem of_mem_statements (stands : s.Stands At) : ∀ p ∈ s.statements, At p.offset ∧ ∀ e ∈ p.exprs, e.Stands At :=
  Source.forall_statements.mpr fun m mem => (stands.methods m mem).body

theorem of_mem_expressions (stands : s.Stands At) : ∀ e ∈ s.expressions, At e.offset := by
  refine Source.forall_expressions.mpr ⟨fun f mem => ?_, fun p mem => ?_⟩
  · exact (stands.fields f mem).initializer
  · exact (stands.of_mem_statements p mem).2

/-- A complaint is about the program as a whole, or it is placed at one of its phrases. -/
theorem of_raises {c : Complaint} {offset : Nat} (stands : s.Stands At) (raises : s.Raises (.complaint c offset)) :
    offset = 0 ∨ At offset := by
  cases raises with
  | complaint => exact .inl rfl
  | field mem raises =>
    cases raises
    exact .inr (stands.fields _ mem).here
  | method mem raises =>
    cases raises
    exact .inr (stands.methods _ mem).here
  | statement mem raises =>
    cases raises
    exact .inr (stands.of_mem_statements _ mem).1
  | expression mem raises =>
    cases raises
    exact .inr (stands.of_mem_expressions _ mem)

end Source.Stands

/-- The phrases of a program stand at tokens of its text. -/
theorem stands_of_parseText {text : List Char} {s : Source} (read : parseText text = .ok s) :
    ∃ tokens, lex text = .ok tokens ∧ s.Stands fun offset => ∃ t ∈ tokens, t.offset = offset := by
  obtain ⟨tokens, lexed, derived⟩ := Grammar.derives_of_parseText read
  exact ⟨tokens, lexed, derived.stands fun t mem => ⟨t, mem, rfl⟩⟩

theorem exists_token_of_complaint {text : List Char} {s : Source} (read : parseText text = .ok s) {catalog : Catalog}
    {needsMain : Bool} {space : Space} {outer : ScopeId} {c : Complaint} {offset : Nat}
    (failed : (checkSource catalog needsMain space outer s).result = .error (.complaint c offset)) :
    offset = 0 ∨ ∃ tokens, lex text = .ok tokens ∧ ∃ t ∈ tokens, t.offset = offset := by
  obtain ⟨tokens, lexed, stands⟩ := stands_of_parseText read
  exact (stands.of_raises (raises_of_checkSource failed)).imp id fun found => ⟨tokens, lexed, found⟩

/-! ## Reports -/

/-- The offsets that are reported for a text: that of an error of lexing, of an error in reading it, or of a complaint
about the program that it is. -/
inductive Reported (text : List Char) : Nat → Prop
  | lexical {e : LexError} (refused : lex text = .error e) : Reported text e.offset
  | textual {e : TextError} (refused : parseText text = .error (.error e)) : Reported text e.offset
  | complaint {s : Source} {catalog : Catalog} {needsMain : Bool} {space : Space} {outer : ScopeId} {c : Complaint}
      {offset : Nat} (read : parseText text = .ok s)
      (failed : (checkSource catalog needsMain space outer s).result = .error (.complaint c offset)) :
      Reported text offset

theorem Reported.le_length {text : List Char} {offset : Nat} (reported : Reported text offset) :
    offset ≤ text.length := by
  cases reported with
  | lexical refused => exact Nat.le_of_lt (offset_lt_of_lex_eq_error refused)
  | textual refused => exact offset_le_of_parseText_eq_error refused
  | complaint read failed =>
    rcases exists_token_of_complaint read failed with rfl | ⟨tokens, lexed, t, mem, rfl⟩
    · exact Nat.zero_le _
    · exact (covers_of_lex_eq_ok lexed).offset_le mem

/-- An offset up to the end of a text is moved to a character of it, and only the end is moved at all. -/
theorem clampOffset_of_le {text : List Char} {offset : Nat} (nonempty : text ≠ []) (le : offset ≤ text.length) :
    0 ≤ clampOffset text offset ∧ clampOffset text offset < text.length ∧
      (clampOffset text offset ≠ offset ↔ offset = text.length) := by
  have positive : 0 < text.length := List.length_pos_iff.mpr nonempty
  unfold clampOffset
  omega

/-- The offset of an error is that of a character of the text or of its end, and the offset of a complaint is that of a
token, or zero. A report moves the end to the last character, and no other offset. -/
theorem reported_offsets_lie_in_the_text (text : List Char) :
    (∀ e, lex text = .error e → e.offset ≤ text.length) ∧
    (∀ e, parseText text = .error (.error e) → e.offset ≤ text.length) ∧
    (∀ s, parseText text = .ok s → ∀ catalog needsMain space outer c offset,
      (checkSource catalog needsMain space outer s).result = .error (.complaint c offset) →
        offset = 0 ∨ ∃ tokens, lex text = .ok tokens ∧ ∃ t ∈ tokens, t.offset = offset) ∧
    ∀ offset, Reported text offset → text ≠ [] →
      0 ≤ clampOffset text offset ∧ clampOffset text offset < text.length ∧
        (clampOffset text offset ≠ offset ↔ offset = text.length) := by
  refine ⟨?_, ?_, ?_, ?_⟩
  · exact fun e refused => (Reported.lexical refused).le_length
  · exact fun e refused => (Reported.textual refused).le_length
  · exact fun s read catalog needsMain space outer c offset failed => exists_token_of_complaint read failed
  · exact fun offset reported nonempty => clampOffset_of_le nonempty reported.le_length

/-- A text that breaks off in a field. -/
def brokenText : String :=
  "LET x"

theorem parseText_brokenText :
    parseText brokenText.toList = .error (.error ⟨.grammatical .colonAndType, 5⟩) := by
  have lexed : lex brokenText.toList = .ok [⟨.operator, "LET", 0⟩, ⟨.identifier, "x", 4⟩] := by decide +kernel
  rw [parseText, lexed]
  cbv

/-- A text that uses a name that means nothing. -/
def unboundText : String :=
  "DEF f() DO RETURN 1 + y; END"

/-- The program of that text. -/
def unbound : Source where
  fields := []
  methods := [{
    name := "f", params := [], resultTypeName := none, offset := 0
    body := [.ret (.binary .add (.literal (.int 1) 18) (.ref "y" 22) 18) 11] }]

theorem parseText_unboundText : parseText unboundText.toList = .ok unbound := by
  have lexed : lex unboundText.toList = .ok [⟨.operator, "DEF", 0⟩, ⟨.identifier, "f", 4⟩, ⟨.operator, "(", 5⟩,
      ⟨.operator, ")", 6⟩, ⟨.operator, "DO", 8⟩, ⟨.operator, "RETURN", 11⟩, ⟨.integer, "1", 18⟩,
      ⟨.operator, "+", 20⟩, ⟨.identifier, "y", 22⟩, ⟨.operator, ";", 23⟩, ⟨.operator, "END", 25⟩] := by
    decide +kernel
  rw [parseText, lexed]
  cbv

theorem unbound_fails :
    (checkSource {} false {} 0 unbound).result = .error (.complaint (.unknownVariable "y") 22) := by
  decide +kernel

/-- A text that breaks off is refused at its very end, and that is moved to its last character. A name that means
nothing is complained about at its own token, and that is not moved. -/
theorem only_the_end_is_moved :
    clampOffset brokenText.toList 5 ≠ 5 ∧ clampOffset brokenText.toList 5 < brokenText.toList.length ∧
      (∃ tokens, lex unboundText.toList = .ok tokens ∧ ∃ t ∈ tokens, t.offset = 22) ∧
      clampOffset unboundText.toList 22 = 22 := by
  obtain ⟨-, -, -, broken⟩ := reported_offsets_lie_in_the_text brokenText.toList
  obtain ⟨-, -, complaints, whole⟩ := reported_offsets_lie_in_the_text unboundText.toList
  obtain ⟨-, inside, isEnd⟩ := broken 5 (.textual parseText_brokenText) (by decide)
  obtain ⟨-, -, isEnd'⟩ := whole 22 (.complaint parseText_unboundText unbound_fails) (by decide)
  have located := complaints unbound parseText_unboundText {} false {} 0 _ 22 unbound_fails
  refine ⟨isEnd.mpr (by decide), inside, located.resolve_left (by decide), ?_⟩
  exact Decidable.not_not.mp fun moved => absurd (isEnd'.mp moved) (by decide)

end Primer
