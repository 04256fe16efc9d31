import Primer.Proofs.Grammar.Completeness
import Primer.Proofs.Tree.Solid

/-!
# A program that was read is solid

Names are words, which are names in Java as well, and the operators of the language have no blanks, quotes or braces in
them. Reading leaves all slots empty.

**The law** (`solid_of_parseText`): a program that was read from a text is solid.
-/

namespace Primer

open Text (isSolid)
open Lexeme (isWordStart isWordPart)

theorem isNamePart_of_isWordPart {c : Char} (part : isWordPart c) : Java.isNamePart c := by
  simp only [isWordPart, Char.isAlphanum, Java.isNamePart, Java.isNameStart, Bool.or_eq_true] at part ⊢
  tauto

/-- A name of the language is a name in Java. -/
theorem isName_of_isName {t : Token} (isName : t.IsName) : Java.isName t.literal.toList := by
  obtain ⟨kind, wellFormed⟩ := isName
  rw [Token.WellFormed, kind] at wellFormed
  obtain ⟨word, -⟩ := wellFormed
  generalize t.literal.toList = cs at word
  cases word with
  | @word c cs first others =>
    have starts : Java.isNameStart c := by
      simp only [isWordStart, Java.isNameStart, Bool.or_eq_true] at first ⊢
      exact .inl first
    simp only [Java.isName, Bool.and_eq_true, List.all_eq_true]
    exact ⟨starts, fun d mem => isNamePart_of_isWordPart (others d mem)⟩

theorem isSolid_of_mem_operators {level : Level} {op : Operator} (listed : op ∈ level.operators) :
    isSolid op.symbol := by
  have each : level.operators.all fun op => isSolid op.symbol := by cases level <;> decide
  exact List.all_eq_true.mp each op listed

namespace Grammar

/-- That a link has solid arguments. -/
def Link.Solid : Link → Prop
  | field _ => True
  | call _ args => ∀ e ∈ args, e.Solid

/-- That a tree of a symbol is solid. -/
def Symbol.Solid : (symbol : Symbol) → symbol.Tree → Prop
  | source, s => Source.Solid s
  | fields, fs => ∀ f ∈ (fs : List Field), f.Solid
  | field, f => Field.Solid f
  | methods, ms => ∀ m ∈ (ms : List Method), m.Solid
  | method, m => Method.Solid m
  | params, ps | paramList, ps => ∀ p ∈ (ps : List Param), Java.isName p.name.toList
  | typeClause, _ => True
  | valueClause, value => ∀ e ∈ (value : Option Expr), e.Solid
  | statements, ss | elseClause, ss => ∀ s ∈ (ss : List Stmt), s.Solid
  | statement, s => Stmt.Solid s
  | operation _, e | operand _, e | secondary, e | primary, e => Expr.Solid e
  | operations _, ops => ∀ operation ∈ (ops : List (Operator × Expr)), isSolid operation.1.symbol ∧ operation.2.Solid
  | links, ls => ∀ link ∈ (ls : List Link), link.Solid
  | arguments, args | argumentList, args => ∀ e ∈ (args : List Expr), e.Solid

theorem solid_grouped {start : Nat} {first : Expr} (solid : first.Solid) {operations : List (Operator × Expr)}
    (others : ∀ operation ∈ operations, isSolid operation.1.symbol ∧ operation.2.Solid) :
    (grouped start first operations).Solid := by
  induction operations generalizing first with
  | nil => exact solid
  | cons operation operations ih =>
    obtain ⟨⟨sign, right⟩, others⟩ := List.forall_mem_cons.mp others
    exact ih (.binary sign solid right) others

theorem solid_chain {start : Nat} {first : Expr} (solid : first.Solid) {links : List Link}
    (others : ∀ link ∈ links, link.Solid) : (chain start first links).Solid := by
  induction links generalizing first with
  | nil => exact solid
  | cons link links ih =>
    obtain ⟨args, later⟩ := List.forall_mem_cons.mp others
    cases link with
    | field name => exact ih (.field solid nofun) later
    | call name => exact ih (.send solid args nofun) later

theorem Derives.solid {symbol : Symbol} {us : List Token} {tree : symbol.Tree} (derived : Derives symbol us tree) :
    symbol.Solid tree := by
  induction derived with
  | source _ _ fields methods => exact ⟨fields, methods⟩
  | fields _ _ first others | methods _ _ first others | statements _ _ first others
  | argument _ _ _ first others => exact List.forall_mem_cons.mpr ⟨first, others⟩
  | field _ isName _ _ _ _ value => exact ⟨isName_of_isName isName, value, nofun⟩
  | method _ isName _ _ _ _ _ _ _ params _ body => exact ⟨isName_of_isName isName, params, body, nofun⟩
  | lastParam isName => exact List.forall_mem_singleton.mpr (isName_of_isName isName)
  | param isName _ _ _ _ others => exact List.forall_mem_cons.mpr ⟨isName_of_isName isName, others⟩
  | value _ _ expression =>
    rintro e ⟨⟩
    exact expression
  | declaration _ isName _ _ _ _ value => exact .declaration (isName_of_isName isName) value nofun
  | conditional _ _ _ _ _ _ tested first second => exact .conditional tested first second
  | forEach _ isName _ _ _ _ _ iterable body => exact .forEach (isName_of_isName isName) iterable body
  | whileLoop _ _ _ _ _ tested body => exact .whileLoop tested body
  | returning _ _ _ value => exact .ret value
  | expression _ _ inside => exact .expression inside
  | assignment _ _ _ _ left right => exact .assignment left right
  | operation _ _ first others => exact solid_grouped first others
  | operations listed _ _ _ right others =>
    exact List.forall_mem_cons.mpr ⟨⟨isSolid_of_mem_operators listed, right⟩, others⟩
  | secondary _ _ first others => exact solid_chain first others
  | fieldLink _ _ _ others => exact List.forall_mem_cons.mpr ⟨trivial, others⟩
  | callLink _ _ _ _ _ _ args others => exact List.forall_mem_cons.mpr ⟨args, others⟩
  | lastArgument _ expression => exact List.forall_mem_singleton.mpr expression
  | literal => exact .literal
  | name => exact .ref nofun
  | group _ _ _ inside => exact .group inside
  | call _ _ _ _ args => exact .call args nofun
  -- Where a rule only names a phrase, or has no phrase inside, nothing is added.
  | comparison _ ih | additive _ ih | multiplicative _ ih | factor _ ih | arguments _ ih | params _ ih
  | elseClause _ _ ih => exact ih
  | noFields | noMethods | noParams | noStatements | noElse | noOperations | noLinks | noArguments =>
    exact fun _ mem => nomatch mem
  | noValue => exact fun _ absent => nomatch absent
  | noType | type => exact True.intro

end Grammar

/-- A program that was read from a text is solid. -/
theorem solid_of_parseText {text : List Char} {s : Source} (read : parseText text = .ok s) : s.Solid := by
  obtain ⟨tokens, -, derived⟩ := Grammar.derives_of_parseText read
  exact derived.solid

end Primer
