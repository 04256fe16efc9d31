import Primer.Proofs.Token.Order
import Primer.Proofs.Token.Scan

/-!
# Lexing loses and invents nothing

The tokens of a text and the blanks between them are the text (`Covers`). A text that has no tokens is wrong at
the first place where no lexeme begins: what stands in front of that place has the tokens that were found, and
nothing that could be a token or a blank begins there.

**The law** is `lexing_loses_nothing`. It is what the steps of lexing come to when they are put in a row.
-/

namespace Primer

/-- That a text, from an offset on, is the literals of tokens, each at its offset, and blanks between them. -/
inductive Covers : Nat → List Char → List Token → Prop
  | nil (offset : Nat) : Covers offset [] []
  | blank {offset : Nat} {taken rest : List Char} {tokens : List Token} (blank : ∀ c ∈ taken, Text.isBlank c)
      (others : Covers (offset + taken.length) rest tokens) : Covers offset (taken ++ rest) tokens
  | token {t : Token} {rest : List Char} {tokens : List Token} (others : Covers t.stop rest tokens) :
      Covers t.offset (t.literal.toList ++ rest) (t :: tokens)

namespace Covers

variable {offset : Nat} {text : List Char} {tokens : List Token} {t : Token}

/-- A token stands where its offset says. -/
theorem exists_append (covers : Covers offset text tokens) (mem : t ∈ tokens) :
    ∃ fore aft, text = fore ++ (t.literal.toList ++ aft) ∧ t.offset = offset + fore.length := by
  induction covers with
  | nil => cases mem
  | @blank offset taken rest tokens _ _ ih =>
    obtain ⟨fore, aft, rfl, isOffset⟩ := ih mem
    refine ⟨taken ++ fore, aft, (List.append_assoc ..).symm, ?_⟩
    rw [isOffset, List.length_append, Nat.add_assoc]
  | @token u rest tokens _ ih =>
    rcases List.mem_cons.mp mem with rfl | mem
    · exact ⟨[], rest, rfl, rfl⟩
    · obtain ⟨fore, aft, rfl, isOffset⟩ := ih mem
      refine ⟨u.literal.toList ++ fore, aft, (List.append_assoc ..).symm, ?_⟩
      rw [isOffset, List.length_append, Token.stop, String.length_toList, Nat.add_assoc]

/-- The literal of a token is the stretch of text from its offset to its end. -/
theorem take_drop_eq (covers : Covers 0 text tokens) (mem : t ∈ tokens) :
    (text.take t.stop).drop t.offset = t.literal.toList := by
  obtain ⟨fore, aft, rfl, isOffset⟩ := covers.exists_append mem
  rw [Nat.zero_add] at isOffset
  have isStop : t.stop = (fore ++ t.literal.toList).length := by
    rw [Token.stop, isOffset, List.length_append, String.length_toList]
  rw [isStop, ← List.append_assoc, List.take_left, isOffset, List.drop_left]

/-- A character outside all tokens is blank. -/
theorem isBlank_of_outside (covers : Covers offset text tokens) {i : Nat} {c : Char} (isAt : text[i]? = some c)
    (outside : ∀ t ∈ tokens, ¬ (t.offset ≤ offset + i ∧ offset + i < t.stop)) : Text.isBlank c := by
  induction covers generalizing i with
  | nil => cases isAt
  | @blank offset taken rest tokens blank _ ih =>
    rw [List.getElem?_append] at isAt
    split at isAt
    next => exact blank c (List.mem_of_getElem? isAt)
    next notTaken =>
      refine ih isAt ?_
      rwa [Nat.add_assoc, Nat.add_sub_cancel' (Nat.not_lt.mp notTaken)]
  | @token u rest tokens _ ih =>
    rw [List.getElem?_append] at isAt
    split at isAt
    next inside =>
      rw [String.length_toList] at inside
      exact absurd ⟨Nat.le_add_right _ _, Nat.add_lt_add_left inside _⟩ (outside u List.mem_cons_self)
    next notTaken =>
      rw [String.length_toList] at notTaken isAt
      refine ih isAt fun t mem => ?_
      rw [Token.stop, Nat.add_assoc, Nat.add_sub_cancel' (Nat.not_lt.mp notTaken)]
      exact outside t (List.mem_cons_of_mem u mem)

end Covers

theorem InOrder.pairwise_stop {offset : Nat} {tokens : List Token} (order : InOrder offset tokens) :
    tokens.Pairwise fun t u => t.stop ≤ u.offset := by
  induction order with
  | nil => exact .nil
  | cons _ _ others ih => exact .cons (fun u mem => others.le_offset mem) ih

/-- What the steps of lexing take is covered by the tokens they make. -/
theorem LexState.Lexes.covers {s last : LexState} {tokens : List Token} {taken : List Char}
    (lexes : s.Lexes tokens last) (isRest : s.rest = taken ++ last.rest) :
    last.offset = s.offset + taken.length ∧ Covers s.offset taken tokens := by
  induction lexes generalizing taken with
  | refl s =>
    rw [List.append_left_eq_self.mp isRest.symm]
    exact ⟨rfl, .nil _⟩
  | @step s s' last token tokens first others ih =>
    obtain ⟨first, -, isState, isState', spans⟩ := first.spans
    obtain ⟨later, isRest'⟩ := others.exists_taken
    obtain ⟨isOffset, covers⟩ := ih isRest'
    have isOffset' : s'.offset = s.offset + first.length := by rw [isState']
    have isTaken : taken = first ++ later := by
      rw [isState, isRest', ← List.append_assoc] at isRest
      exact (List.append_cancel_right isRest).symm
    subst isTaken
    rw [isOffset'] at isOffset covers
    refine ⟨by rw [isOffset, List.length_append, Nat.add_assoc], ?_⟩
    cases token with
    | none => exact .blank spans covers
    | some t =>
      obtain ⟨placed, rfl⟩ := spans
      rw [← placed, String.length_toList] at covers
      rw [← placed]
      exact .token covers

/-- Reserved words are words. -/
theorem Lexeme.isWord_of_mem_reservedWords {word : String} (reserved : word ∈ reservedWords) :
    IsWord word.toList := by
  have each : reservedWords.all
      (fun w => w.toList.head?.any isWordStart && w.toList.tail.all isWordPart) = true := by decide
  have spelled := List.all_eq_true.mp each word reserved
  rw [Bool.and_eq_true] at spelled
  generalize word.toList = cs at spelled
  cases cs with
  | nil => cases spelled.1
  | cons c cs => exact .word spelled.1 (List.all_eq_true.mp spelled.2)

/-- The literal of a well-formed token has a shape that makes a token of its kind. -/
theorem Token.WellFormed.exists_fits {t : Token} (wellFormed : t.WellFormed) :
    ∃ shape : Shape, shape.Fits t.literal.toList ∧ Lexeme.kind? shape t.literal = some t.kind := by
  obtain ⟨kind, literal, offset⟩ := t
  cases kind with
  | operator =>
    rcases wellFormed with reserved | symbol
    · exact ⟨.word, Lexeme.isWord_of_mem_reservedWords reserved, congrArg some (if_pos reserved)⟩
    · refine ⟨.symbol, ?_, rfl⟩
      change String.ofList literal.toList ∈ Lexeme.symbols
      rwa [String.ofList_toList]
  | identifier => exact ⟨.word, wellFormed.1, congrArg some (if_neg wellFormed.2)⟩
  | integer => exact ⟨.integer, wellFormed, rfl⟩
  | decimal => exact ⟨.decimal, wellFormed, rfl⟩
  | character => exact ⟨.character, wellFormed, rfl⟩
  | string => exact ⟨.string, wellFormed, rfl⟩
  | other name => exact wellFormed.elim

/-- Where nothing is found, neither a blank nor a token stands. -/
theorem Lexeme.refused_of_front?_eq_none {cs front : List Char} (nothing : front? cs = none) (nonempty : front ≠ [])
    (fore : front <+: cs) :
    (∃ c ∈ front, ¬ Text.isBlank c) ∧ ∀ t : Token, t.WellFormed → t.literal.toList ≠ front := by
  have refused := front?_eq_none_iff.mp nothing
  constructor
  · apply Classical.byContradiction
    intro allBlank
    simp only [not_exists, not_and, Decidable.not_not] at allBlank
    exact refused .blank front ⟨nonempty, allBlank⟩ fore
  · rintro t wellFormed rfl
    obtain ⟨shape, fits, -⟩ := wellFormed.exists_fits
    exact refused shape _ fits fore

/-- The tokens of a text stand in it as they are spelled, in order and apart, with nothing but blanks between them. If
there is an error, the text before it is lexed, and neither a blank nor a token stands where it is. -/
theorem lexing_loses_nothing (text : List Char) :
    match lex text with
    | .ok tokens =>
      (∀ t ∈ tokens, (text.take t.stop).drop t.offset = t.literal.toList) ∧
        tokens.Pairwise (fun t u => t.stop ≤ u.offset) ∧
        (∀ i c, text[i]? = some c → (∀ t ∈ tokens, ¬ (t.offset ≤ i ∧ i < t.stop)) → Text.isBlank c) ∧
        Covers 0 text tokens
    | .error e =>
      e.offset < text.length ∧
        (∃ found last, (LexState.start text).Lexes found last ∧ last.offset = e.offset ∧
          last.rest = text.drop e.offset ∧ lex (text.take e.offset) = .ok found) ∧
        ∀ front, front ≠ [] → front <+: text.drop e.offset →
          (∃ c ∈ front, ¬ Text.isBlank c) ∧ ∀ t : Token, t.WellFormed → t.literal.toList ≠ front := by
  obtain ⟨tokens, last, lexes, nothing, isLexed⟩ := LexState.exists_lex_eq text
  obtain ⟨taken, isText⟩ := lexes.exists_taken
  obtain ⟨isOffset, covers⟩ := lexes.covers isText
  have again := lexes.of_append isText
  change text = taken ++ last.rest at isText
  change Covers 0 taken tokens at covers
  change last.offset = 0 + taken.length at isOffset
  rw [Nat.zero_add] at isOffset
  cases isRest : last.rest with
  | nil =>
    rw [isRest] at isLexed
    rw [isRest, List.append_nil] at isText
    rw [← isText] at covers
    rw [isLexed]
    refine ⟨fun t mem => covers.take_drop_eq mem, (lex_inOrder isLexed).pairwise_stop, ?_, covers⟩
    intro i c isAt outside
    exact covers.isBlank_of_outside isAt (by rwa [Nat.zero_add])
  | cons c cs =>
    have isDrop : text.drop last.offset = last.rest := by rw [isText, isOffset, List.drop_left]
    have isTake : text.take last.offset = taken := by rw [isText, isOffset, List.take_left]
    rw [isRest] at isLexed
    rw [isLexed]
    dsimp only
    rw [isDrop, isTake]
    refine ⟨?_, ⟨tokens, last, lexes, rfl, rfl, LexState.lex_eq_ok_of_lexes again rfl⟩, fun front nonempty fore => ?_⟩
    · rw [isText, isRest, isOffset, List.length_append, List.length_cons]
      omega
    · exact Lexeme.refused_of_front?_eq_none nothing nonempty fore

/-- A subtraction, and then something that no token begins with. -/
theorem stray_after_subtraction :
    lex "n-1 #".toList = .error { issue := .unexpectedCharacter '#', offset := 4 } ∧
      (∃ found last, (LexState.start "n-1 #".toList).Lexes found last ∧ last.offset = 4 ∧ last.rest = ['#'] ∧
        lex "n-1 ".toList = .ok found) ∧
      ∀ t : Token, t.WellFormed → t.literal.toList ≠ ['#'] := by
  have failed : lex "n-1 #".toList = .error { issue := .unexpectedCharacter '#', offset := 4 } := by
    decide +kernel
  have law := lexing_loses_nothing "n-1 #".toList
  rw [failed] at law
  obtain ⟨-, found, refused⟩ := law
  exact ⟨failed, found, (refused ['#'] (List.cons_ne_nil _ _) ⟨[], rfl⟩).2⟩

end Primer
