import Primer.Proofs.Grammar.Completeness
import Primer.Proofs.Token.Respacing

/-!
# Escaped literals read back

A text is written between quotes with escapes for what cannot stand there plainly, and a literal is read by
taking the escapes back.

**The law** (`escaped_literals_read_back`): whatever the text, its literal is one token, and that token is read as
the text. The closing quote ends the literal whatever stands behind it, so in front of any other text the literal
is still the first token.

An escaped character is one of the spellings of that character (`Text.spells_escapedChar`). All else is true of
every quoted literal, escaped by this printer or not (`Lexeme.front?_append_of_isQuoted`, `readsBack_of_denotes`).
-/

namespace Primer

open Lexeme

namespace Text

theorem escapeMeaning?_of_escapeLetter? {c letter : Char} (isLetter : escapeLetter? c = some letter) :
    escapeMeaning? letter = some c := by
  unfold escapeLetter? at isLetter
  split at isLetter <;> cases isLetter
  all_goals rfl

/-- A character that needs no letter is plain: it is no backslash and ends no line. -/
theorem plain_of_escapeLetter?_eq_none {c : Char} (plain : escapeLetter? c = none) :
    c ≠ '\\' ∧ c ≠ '\n' ∧ c ≠ '\r' := by
  refine ⟨?_, ?_, ?_⟩
  all_goals
    intro same
    rw [same] at plain
    cases plain

/-- An escaped character is a spelling of the character, between either quotes. -/
theorem spells_escapedChar {quote : Char} (meaning : escapeMeaning? quote = some quote) (c : Char) :
    Spells quote (escapedChar quote c) c := by
  unfold escapedChar
  split
  next isQuote =>
    rw [eq_of_beq isQuote]
    exact .escape meaning
  next other =>
    cases isLetter : escapeLetter? c with
    | some letter => exact .escape (escapeMeaning?_of_escapeLetter? isLetter)
    | none =>
      obtain ⟨unescaped, sameLine⟩ := plain_of_escapeLetter?_eq_none isLetter
      exact .plain (by simpa using other) unescaped sameLine

theorem spellsAll_escapedChars {quote : Char} (meaning : escapeMeaning? quote = some quote) (cs : List Char) :
    SpellsAll quote (cs.flatMap (escapedChar quote)) cs := by
  induction cs with
  | nil => exact .nil
  | cons c cs ih => exact .cons (spells_escapedChar meaning c) ih

theorem stringOf_escape (cs : List Char) : StringOf (escape '\x22' cs) cs :=
  .quoted (spellsAll_escapedChars rfl cs)

theorem characterOf_escape (c : Char) : CharacterOf (escape '\x27' [c]) c := by
  have spelled := CharacterOf.quoted (spells_escapedChar rfl c)
  rw [← List.flatMap_singleton (escapedChar '\x27') c] at spelled
  exact spelled

end Text

/-! ## Quoted literals in front of other text -/

namespace Shape

/-- The shapes that end with a quote of their own. -/
def IsQuoted (shape : Shape) : Prop :=
  shape = character ∨ shape = string

variable {shape : Shape} {literal : List Char}

theorem length?_append_of_isQuoted (quoted : shape.IsQuoted) (fits : shape.Fits literal) (rest : List Char) :
    shape.length? (literal ++ rest) = some literal.length := by
  rcases quoted with rfl | rfl
  · obtain ⟨c, isCharacter⟩ := fits
    exact quotedLength?_append_of_characterOf isCharacter rest
  · obtain ⟨text, isString⟩ := fits
    exact quotedLength?_append_of_stringOf isString rest

end Shape

/-- A quoted literal is found as what it is, whatever stands behind it. -/
theorem Lexeme.front?_append_of_isQuoted {shape : Shape} {literal : List Char} (quoted : shape.IsQuoted)
    (fits : shape.Fits literal) (rest : List Char) : front? (literal ++ rest) = some (shape, literal.length) := by
  apply front?_eq_some_of_earlier (Shape.length?_append_of_isQuoted quoted fits rest)
  intro other earlier
  -- No other shape begins with a quote.
  have noRival : other ∉ shape.rivals := by rcases quoted with rfl | rfl <;> exact List.not_mem_nil
  obtain ⟨c, cs, rfl⟩ := List.exists_cons_of_ne_nil (ne_nil_of_fits fits)
  exact Shape.length?_eq_none_of_not_begins
    (Shape.not_begins_of_earlier earlier noRival (Shape.begins_of_fits fits))

/-- The token of a literal at the beginning of a text. -/
def Token.leading (kind : Kind) (literal : List Char) : Token where
  kind := kind
  literal := String.ofList literal
  offset := 0

/-- What it is for a literal to be read back as a value. -/
structure ReadsBack (kind : Kind) (literal : List Char) (value : Value) : Prop where
  /-- Alone it is one token, which goes from its beginning to its end. -/
  alone : lex literal = .ok [Token.leading kind literal]
  /-- The token is read as the value. -/
  read : Rule.primary.parse [Token.leading kind literal] = .ok (.expr (.literal value 0), 1)
  /-- In front of other text it is the same token. -/
  first : ∀ rest tokens, lex (literal ++ rest) = .ok tokens → tokens.head? = some (Token.leading kind literal)

/-- A quoted literal is taken in the first step, and lexing goes on behind it. -/
theorem lex_append_of_isQuoted {shape : Shape} {literal : List Char} {kind : Kind} (quoted : shape.IsQuoted)
    (fits : shape.Fits literal) (isKind : kind? shape (String.ofList literal) = some kind) (rest : List Char) :
    lex (literal ++ rest) =
      (lexFrom (some (.leading kind literal)) literal.length rest).map (Token.leading kind literal :: ·) := by
  have step := LexState.Step.lexeme (s := .start (literal ++ rest)) (Bool.and_false _)
    (front?_append_of_isQuoted quoted fits rest)
  have isToken : (LexState.start (literal ++ rest)).token? shape literal.length = some (.leading kind literal) := by
    simp only [LexState.token?, LexState.start, List.take_left, isKind, Option.map_some, Token.leading]
  rw [isToken] at step
  have lexed := step.lexFrom_eq
  simp only [LexState.advance, LexState.start, List.drop_left, Option.some_or, Nat.zero_add,
    Option.toList_some, List.singleton_append] at lexed
  exact lexed

/-- A quoted literal is read back as the value it denotes. -/
theorem readsBack_of_denotes {shape : Shape} {literal : List Char} {kind : Kind} {value : Value}
    (quoted : shape.IsQuoted) (fits : shape.Fits literal)
    (isKind : kind? shape (String.ofList literal) = some kind) (notInteger : kind ≠ .integer)
    (denotes : (Token.leading kind literal).Denotes value) : ReadsBack kind literal value where
  alone := by
    have lexed := lex_append_of_isQuoted quoted fits isKind []
    rw [List.append_nil] at lexed
    rw [lexed, lexFrom.eq_def]
    rfl
  read := by
    have readable : (Token.leading kind literal).Readable := fun integer => absurd integer notInteger
    exact Grammar.parse_primary_of_denotes denotes readable []
  first := by
    intro rest tokens lexed
    rw [lex_append_of_isQuoted quoted fits isKind rest] at lexed
    obtain ⟨others, -, rfl⟩ := Except.map_eq_ok_iff.mp lexed
    rfl

/-- The literal that is written for a string, or for a character, is lexed as one token and read as that value,
whatever characters are in it. -/
theorem escaped_literals_read_back :
    (∀ cs : List Char, ReadsBack .string (Text.escape '\x22' cs) (.str (String.ofList cs))) ∧
      ∀ c : Char, ReadsBack .character (Text.escape '\x27' [c]) (.char c) := by
  constructor
  · intro cs
    have isString := Text.stringOf_escape cs
    have fits : Shape.string.Fits (Text.escape '\x22' cs) := ⟨cs, isString⟩
    apply readsBack_of_denotes (.inr rfl) fits rfl (by decide)
    exact .string rfl (by simpa only [Token.leading, String.toList_ofList] using isString)
  · intro c
    have isCharacter := Text.characterOf_escape c
    have fits : Shape.character.Fits (Text.escape '\x27' [c]) := ⟨c, isCharacter⟩
    apply readsBack_of_denotes (.inl rfl) fits rfl (by decide)
    exact .character rfl (by simpa only [Token.leading, String.toList_ofList] using isCharacter)

/-- Both quotes, a backslash and a line break in one string. -/
example : Text.escape '\x22' "\"'\\\n".toList = "\"\\\"'\\\\\\n\"".toList := by decide

end Primer
