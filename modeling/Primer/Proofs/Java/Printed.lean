import Primer.Proofs.Check.Judgement
import Primer.Proofs.Java.Lexemes
import Primer.Proofs.Number.Spelling

/-!
# The lexemes of what is printed

The Java tree of a settled expression has its operators as they are, a group as parentheses, and the names
that Java knows, which may be paths with points between names. The names that a host gives are taken as they
are, so it is asked of them that they be such paths (`Expr.NamedInJava`). Those of a solid program are.

**The law** (`printed`): a settled expression is printed, and its text is cut into the lexemes of its Java
tree.
-/

namespace Primer

namespace Java

/-! ## Trees of expressions -/

/-- What is reached from an owner by a path. -/
def reach (owner : Tree) (path : List (List Char)) : Tree :=
  path.foldl .member owner

/-- The tree of a path. -/
def pathTree (name : String) : Tree :=
  reach (.leaf (.name ((pathOf name).headD []))) (pathOf name).tail

/-- The tree of a literal. Values of other kinds have none, and are never printed. -/
def literalTree : Value → Tree
  | .nil => .leaf (.name "null".toList)
  | .bool b => .leaf (.name (if b then "true" else "false").toList)
  | .char c => .leaf (.quoted (Text.escape '\x27' [c]))
  | .str s => .leaf (.quoted (Text.escape '\x22' s.toList))
  | .int n => .leaf (.number (Numeral.chars n))
  | .dec d => .leaf (.number d.chars)
  | _ => .leaf (.name [])

end Java

namespace Expr

mutual
/-- The tree that an expression is to be read as in Java. An empty slot stands for the name as it is. -/
def javaTree : Expr → Java.Tree
  | literal value _ _ => Java.literalTree value
  | group inner _ _ => .group inner.javaTree
  | binary op left right _ _ => .binary op left.javaTree right.javaTree
  | ref name _ binding _ => Java.pathTree ((binding.map Variable.javaName).getD name)
  | field receiver name _ binding _ =>
    Java.reach receiver.javaTree (Java.pathOf ((binding.map Variable.javaName).getD name))
  | call name args _ callee _ =>
    .call (Java.pathTree ((callee.map Function.javaName).getD name)) (javaTrees args)
  | send receiver name args _ callee _ =>
    .call (Java.reach receiver.javaTree (Java.pathOf ((callee.map Function.javaName).getD name))) (javaTrees args)
  | unknown _ => .leaf (.name [])

/-- The trees that expressions are to be read as in Java. -/
def javaTrees : List Expr → List Java.Tree
  | [] => []
  | e :: es => e.javaTree :: javaTrees es
end

/-- The name of an expression in Java, if checking settled one. -/
def javaName? : Expr → Option String
  | ref _ _ binding _ => binding.map Variable.javaName
  | field _ _ _ binding _ => binding.map Variable.javaName
  | call _ _ _ callee _ => callee.map Function.javaName
  | send _ _ _ _ callee _ => callee.map Function.javaName
  | _ => none

/-- That all names of an expression are paths in Java. -/
def NamedInJava (e : Expr) : Prop :=
  ∀ part ∈ e.parts, ∀ name ∈ part.javaName?, Java.IsPath name

instance (e : Expr) : Decidable e.NamedInJava :=
  inferInstanceAs (Decidable (∀ part ∈ e.parts, ∀ name ∈ part.javaName?, Java.IsPath name))

/-- The records in a solid expression are named by paths. -/
theorem Solid.namedInJava {e : Expr} (solid : e.Solid) : e.NamedInJava := by
  have ofVariable : ∀ {binding : Option Variable}, (∀ v ∈ binding, v.Solid) →
      ∀ name ∈ binding.map Variable.javaName, Java.IsPath name :=
    fun settled => Option.forall_mem_map.mpr fun v found => (settled v found).javaName
  have ofFunction : ∀ {callee : Option Function}, (∀ f ∈ callee, f.Solid) →
      ∀ name ∈ callee.map Function.javaName, Java.IsPath name :=
    fun settled => Option.forall_mem_map.mpr fun f found => (settled f found).javaName
  induction solid with
  | literal | unknown => exact List.forall_mem_singleton.mpr nofun
  | group _ inside => exact List.forall_mem_cons.mpr ⟨nofun, inside⟩
  | binary _ _ _ first second => exact List.forall_mem_cons.mpr ⟨nofun, List.forall_mem_append.mpr ⟨first, second⟩⟩
  | ref settled => exact List.forall_mem_singleton.mpr (ofVariable settled)
  | field _ settled object => exact List.forall_mem_cons.mpr ⟨ofVariable settled, object⟩
  | call _ settled given => exact List.forall_mem_cons.mpr ⟨ofFunction settled, forall_partsAll.mpr given⟩
  | send _ _ settled object given =>
    exact List.forall_mem_cons.mpr ⟨ofFunction settled, List.forall_mem_append.mpr ⟨object, forall_partsAll.mpr given⟩⟩

end Expr

/-- The records in a solid program are named by paths. -/
theorem Source.Solid.namedInJava {s : Source} (solid : s.Solid) : ∀ e ∈ s.expressions, e.NamedInJava :=
  fun e mem part isPart =>
    solid.forall_expressions (fun _ inside => inside.namedInJava) part (parts_subset_expressions e mem isPart)

namespace Java

/-! ## Numbers -/

theorem isDigits_digits (n : Nat) : IsDigits (Numeral.digits n) :=
  ⟨Numeral.digits_ne_nil n, Numeral.isDigit_of_mem_digits⟩

theorem isNumber_of_isDigits {ds : List Char} (digits : IsDigits ds) : IsNumber ds := by
  have number := IsNumber.number digits (.inl rfl) (.inl rfl)
  rwa [List.append_nil, List.append_nil] at number

/-- The text of a decimal is a number of Java, with or without a power of ten. -/
theorem isNumber_body (s : Spelling) : IsNumber s.body := by
  have fraction : s.fractionChars = [] ∨ ∃ ds, s.fractionChars = '.' :: ds ∧ IsDigits ds := by
    unfold Spelling.fractionChars
    split
    · exact .inl rfl
    next some => exact .inr ⟨_, rfl, by simpa using some, s.isDigit_fraction⟩
  have power : Spelling.powerChars s.power = [] ∨ ∃ sign ds, Spelling.powerChars s.power = 'E' :: sign :: ds ∧
      (sign = '+' ∨ sign = '-') ∧ IsDigits ds := by
    cases s.power with
    | none => exact .inl rfl
    | some n =>
      refine .inr ⟨_, _, rfl, ?_, isDigits_digits n.natAbs⟩
      split
      · exact .inr rfl
      · exact .inl rfl
  have number := IsNumber.number ⟨s.whole_ne_nil, s.isDigit_whole⟩ fraction power
  rwa [List.append_assoc] at number

/-- A number with its sign, where an operand is due. -/
theorem cuts_signed {negative : Prop} [Decidable negative] {cs : List Char} (number : IsNumber cs) :
    Cuts Clear true (if negative then '-' :: cs else cs)
      [.word (.number (if negative then '-' :: cs else cs))] false := by
  split
  · exact cuts_negative number
  · exact cuts_number number

/-! ## Literals and names -/

/-- An integer that the check lets pass is short enough to be written. -/
theorem write?_of_small {n : Int} (small : n.natAbs < Nat.pow 2 integerBits) :
    Numeral.write? n = some (String.ofList (Numeral.chars n)) := by
  have enough : integerBits ≤ Numeral.digitLimit := by decide
  have short : n.natAbs < Nat.pow 10 Numeral.digitLimit := by
    generalize Numeral.digitLimit = limit at enough ⊢
    calc n.natAbs < 2 ^ integerBits := small
      _ ≤ 10 ^ integerBits := Nat.pow_le_pow_left (by decide) _
      _ ≤ 10 ^ limit := Nat.pow_le_pow_right (by decide) enough
  rw [Numeral.write?, if_pos short]

theorem literal_int {n : Int} {numeral : String} (written : Numeral.write? n = some numeral) :
    literal (.int n) = .ok numeral := by
  -- The equations of `literal` would have Lean work out the limit of digits.
  delta literal
  dsimp only
  rw [written]

/-- A literal that passes the check is printed. -/
theorem printed_literal {value : Value} {offset : Nat} {t : Ty} (typed : Check.literalType value offset = .ok t) :
    ∃ text, literal value = .ok text ∧ Cuts Clear true text.toList (literalTree value).lexemes false := by
  cases value with
  | nil => exact ⟨_, rfl, cuts_name (by decide)⟩
  | bool b => cases b <;> exact ⟨_, rfl, cuts_name (by decide)⟩
  | char c =>
    refine ⟨_, rfl, ?_⟩
    rw [String.toList_ofList]
    exact (cuts_quoted (.inl rfl) _).of_anything
  | str s =>
    refine ⟨_, rfl, ?_⟩
    rw [String.toList_ofList]
    exact (cuts_quoted (.inr rfl) _).of_anything
  | int n =>
    have small : n.natAbs < Nat.pow 2 integerBits := by
      rw [Check.literalType] at typed
      split at typed
      next small => exact small
      next => split at typed <;> cases typed
    refine ⟨String.ofList (Numeral.chars n), literal_int (write?_of_small small), ?_⟩
    rw [String.toList_ofList]
    exact cuts_signed (isNumber_of_isDigits (isDigits_digits _))
  | dec d =>
    obtain ⟨s, shown, -⟩ := d.exists_spelling
    refine ⟨_, rfl, ?_⟩
    rw [Decimal.text, String.toList_ofList, literalTree, ← shown]
    exact cuts_signed (isNumber_body s)
  | range | list | object =>
    simp only [Check.literalType] at typed
    split at typed <;> cases typed

/-- The points and names of a path behind its owner. -/
theorem cuts_reach {path : List (List Char)} (names : ∀ part ∈ path, isName part) :
    Cuts Clear false (path.flatMap ('.' :: ·)) (path.flatMap fun part => [.dot, .word (.name part)]) false ∧
      ∀ rest, Clear rest → Clear (path.flatMap ('.' :: ·) ++ rest) := by
  induction path with
  | nil => exact ⟨fun rest _ => by simp, fun _ clear => clear⟩
  | cons part path ih =>
    obtain ⟨isPart, areOthers⟩ := List.forall_mem_cons.mp names
    obtain ⟨cuts, fits⟩ := ih areOthers
    refine ⟨cuts_dot.then ((cuts_name isPart).append cuts fits), ?_⟩
    intro rest _
    cases part with
    | nil => cases isPart
    | cons c cs =>
      rw [isName, Bool.and_eq_true] at isPart
      exact clear_point (not_isDigit_of_isNameStart isPart.1)

theorem lexemes_reach (owner : Tree) (path : List (List Char)) :
    (reach owner path).lexemes = owner.lexemes ++ path.flatMap fun part => [.dot, .word (.name part)] := by
  induction path generalizing owner with
  | nil => simp [reach]
  | cons part path ih =>
    rw [reach, List.foldl_cons, ← reach, ih, Tree.lexemes, List.append_assoc, List.flatMap_cons]

theorem level_reach {owner : Tree} (isOperand : owner.level = 7) (path : List (List Char)) :
    (reach owner path).level = 7 := by
  induction path generalizing owner with
  | nil => exact isOperand
  | cons part path ih => exact ih rfl

theorem cuts_path {name : String} (isPath : IsPath name) :
    Cuts Clear due name.toList (pathTree name).lexemes false := by
  obtain ⟨first, others, shape⟩ := List.exists_cons_of_ne_nil (pathOf_ne_nil name)
  rw [IsPath, shape, List.forall_mem_cons] at isPath
  obtain ⟨cuts, fits⟩ := cuts_reach isPath.2
  rw [toList_eq_path, pathTree, lexemes_reach, shape]
  exact (cuts_name isPath.1).append cuts fits

/-- A member of something that was printed. -/
theorem cuts_member {owner : Tree} {text : List Char} {name : String} (cuts : Cuts Clear due text owner.lexemes false)
    (isPath : IsPath name) : Cuts Clear due (text ++ '.' :: name.toList) (reach owner (pathOf name)).lexemes false := by
  obtain ⟨first, others, shape⟩ := List.exists_cons_of_ne_nil (pathOf_ne_nil name)
  obtain ⟨behind, fits⟩ := cuts_reach isPath
  have spelled : '.' :: name.toList = (pathOf name).flatMap ('.' :: ·) := by
    rw [toList_eq_path, shape]
    rfl
  rw [lexemes_reach, spelled]
  exact cuts.append behind fits

/-! ## Expressions -/

/-- Printed arguments behind the first, up to the parenthesis that closes them. -/
theorem cuts_more {texts : List String} {trees : List Tree}
    (printed : List.Forall₂ (fun text tree => Cuts Clear true text.toList tree.lexemes false) texts trees) :
    Cuts Anything false ((texts.map String.toList).flatMap (", ".toList ++ ·) ++ [')'])
        (Tree.moreLexemes trees ++ [.closing]) false ∧
      ∀ rest, Clear ((texts.map String.toList).flatMap (", ".toList ++ ·) ++ [')'] ++ rest) := by
  induction printed with
  | nil => exact ⟨cuts_closing, fun rest => clear_cons (by decide) (by decide)⟩
  | @cons text tree texts trees first others ih =>
    obtain ⟨cuts, fits⟩ := ih
    constructor
    · rw [List.map_cons, List.flatMap_cons, Tree.moreLexemes, List.append_assoc, List.append_assoc, List.append_assoc]
      exact cuts_comma.then (first.append cuts fun rest _ => fits rest)
    · intro rest
      exact clear_cons (by decide) (by decide)

/-- Printed arguments between their parentheses. -/
theorem cuts_arguments {texts : List String} {trees : List Tree}
    (printed : List.Forall₂ (fun text tree => Cuts Clear true text.toList tree.lexemes false) texts trees) :
    Cuts Anything false ('(' :: (", ".intercalate texts).toList ++ [')'])
      (.opening :: (Tree.argLexemes trees ++ [.closing])) false := by
  rw [String.toList_intercalate, List.cons_append]
  apply cuts_opening.then
  cases printed with
  | nil => exact cuts_closing
  | @cons text tree texts trees first others =>
    obtain ⟨cuts, fits⟩ := cuts_more others
    rw [List.map_cons, intercalate_eq, Tree.argLexemes]
    have both := first.append cuts fun rest _ => fits rest
    rw [← List.append_assoc, ← List.append_assoc] at both
    exact both

/-- A call of something that was printed. -/
theorem cuts_call {callee : Tree} {text : String} {texts : List String} {trees : List Tree}
    (called : Cuts Clear due text.toList callee.lexemes false)
    (printed : List.Forall₂ (fun text tree => Cuts Clear true text.toList tree.lexemes false) texts trees) :
    Cuts Clear due (text ++ "(" ++ ", ".intercalate texts ++ ")").toList (Tree.call callee trees).lexemes false := by
  have whole := called.append (cuts_arguments printed) fun rest _ => clear_cons (by decide) (by decide)
  simpa [Tree.lexemes] using whole.of_anything

theorem known_of_operates {op : Operator} {l r t : Ty} (operates : Operates op l r t) :
    ∀ symbol, op ≠ .other symbol := by
  rintro symbol rfl
  cases operates with
  | logical isLogical => simp at isLogical
  | comparison isComparison => simp at isComparison
  | arithmetic isArithmetic => simp at isArithmetic

variable {c : Context}

mutual
/-- A settled expression is printed, and its text is cut into the lexemes of its tree. -/
theorem printed (e : Expr) {t : Ty} (typed : c.Types e t) (named : e.NamedInJava) :
    ∃ text, expr e = .ok text ∧ Cuts Clear true text.toList e.javaTree.lexemes false := by
  cases typed with
  | literal typed => exact printed_literal typed
  | @group inner offset t inside =>
    obtain ⟨text, same, cuts⟩ := printed inner inside fun part mem => named part (by simp [Expr.parts, mem])
    refine ⟨"(" ++ text ++ ")", by rw [expr, same]; rfl, ?_⟩
    rw [String.toList_append, String.toList_append]
    have closed := cuts.append cuts_closing fun rest _ => clear_cons (by decide) (by decide)
    exact (cuts_opening.then closed).of_anything
  | @binary op left right offset l r t first second operates ordered =>
    obtain ⟨leftText, sameLeft, cutsLeft⟩ :=
      printed left first fun part mem => named part (by simp [Expr.parts, mem])
    obtain ⟨rightText, sameRight, cutsRight⟩ :=
      printed right second fun part mem => named part (by simp [Expr.parts, mem])
    refine ⟨leftText ++ " " ++ operator op ++ " " ++ rightText, by rw [expr, sameLeft, sameRight]; rfl, ?_⟩
    have operated := (cuts_operator (known_of_operates operates)).then cutsRight
    have whole := cutsLeft.append operated fun rest _ => clear_cons (by decide) (by decide)
    simpa [Expr.javaTree, Tree.lexemes] using whole
  | @ref name offset v found =>
    refine ⟨v.javaName, rfl, cuts_path ?_⟩
    exact named _ (Expr.mem_parts_self _) _ rfl
  | @field receiver name offset t v object found =>
    obtain ⟨text, same, cuts⟩ := printed receiver object fun part mem => named part (by simp [Expr.parts, mem])
    have isPath : IsPath v.javaName := named _ (Expr.mem_parts_self _) _ rfl
    refine ⟨text ++ "." ++ v.javaName, by rw [expr, same]; rfl, ?_⟩
    rw [String.toList_append, String.toList_append, List.append_assoc]
    exact cuts_member cuts isPath
  | @call name args offset types f given found accepted =>
    obtain ⟨texts, same, cuts⟩ := printed_all args given (Expr.forall_partsAll.mp fun part mem =>
      named part (by simp [Expr.parts, mem]))
    have isPath : IsPath f.javaName := named _ (Expr.mem_parts_self _) _ rfl
    refine ⟨f.javaName ++ "(" ++ ", ".intercalate texts ++ ")", by rw [expr, same]; rfl, ?_⟩
    exact cuts_call (cuts_path isPath) cuts
  | @send receiver name args offset t types f given object found =>
    obtain ⟨text, sameObject, cutsObject⟩ := printed receiver object fun part mem =>
      named part (by simp [Expr.parts, mem])
    obtain ⟨texts, same, cuts⟩ := printed_all args given (Expr.forall_partsAll.mp fun part mem =>
      named part (by simp [Expr.parts, mem]))
    have isPath : IsPath f.javaName := named _ (Expr.mem_parts_self _) _ rfl
    refine ⟨text ++ "." ++ f.javaName ++ "(" ++ ", ".intercalate texts ++ ")",
      by rw [expr, sameObject, same]; rfl, cuts_call ?_ cuts⟩
    rw [String.toList_append, String.toList_append, List.append_assoc]
    exact cuts_member cutsObject isPath

theorem printed_all (es : List Expr) {ts : List Ty} (typed : c.TypesAll es ts) (named : ∀ e ∈ es, e.NamedInJava) :
    ∃ texts, exprs es = .ok texts ∧
      List.Forall₂ (fun text tree => Cuts Clear true text.toList tree.lexemes false) texts (Expr.javaTrees es) := by
  cases typed with
  | nil => exact ⟨[], rfl, .nil⟩
  | @cons e es t ts first others =>
    obtain ⟨isFirst, areOthers⟩ := List.forall_mem_cons.mp named
    obtain ⟨text, same, cuts⟩ := printed e first isFirst
    obtain ⟨texts, sameAll, cutsAll⟩ := printed_all es others areOthers
    exact ⟨text :: texts, by rw [exprs, same, sameAll]; rfl, .cons cuts cutsAll⟩
end

end Java

end Primer
