import Primer.Proofs.Check.Bare
import Primer.Proofs.Check.Filled
import Primer.Proofs.Check.Solid
import Primer.Proofs.Grammar.Nesting
import Primer.Proofs.Java.Printed

/-!
# Where Java groups as the program does

Nothing is printed around an operation that was not in parentheses, so Java groups the operators of an
expression by levels of its own. The levels differ in two places. The language has one level for the six
comparisons, where Java has two; but a comparison is no operand of another, since truth values are not
ordered. And the language has one level for the two logical operators, where Java has `&&` bind tighter than
`||`: there the two part.

**The law** (`java_groups_as_written_iff`): an expression that was read and passes the check is printed, and
Java reads what is printed as the tree of the expression if and only if no `OR` is an operand of an `AND`
without parentheses around it. Otherwise Java groups in another way, as it does for `TRUE OR TRUE AND FALSE`
(`or_before_and_regrouped`). Of the names that a host gives, the law asks that they be paths; in a program that was
read, over the scope around programs, all of them are (`read_printed_of_parseText`).

**What it does not establish.** That a name is no reserved word of Java, and that Java accepts the types.
-/

namespace Primer

namespace Expr

/-- Whether an expression is an `OR` that stands without parentheses. -/
def isOr : Expr → Bool
  | binary .or _ _ _ _ => true
  | _ => false

/-- Whether an expression is an `AND` of which an operand is an `OR` without parentheses. -/
def andsOr : Expr → Bool
  | binary .and left right _ _ => left.isOr || right.isOr
  | _ => false

/-- That every `OR` that is an operand of an `AND` stands in parentheses. -/
def OrsGrouped (e : Expr) : Prop :=
  ∀ part ∈ e.parts, ¬ part.andsOr

instance (e : Expr) : Decidable e.OrsGrouped :=
  inferInstanceAs (Decidable (∀ part ∈ e.parts, ¬ part.andsOr))

theorem isOr_bare (e : Expr) : e.bare.isOr = e.isOr := by
  cases e with
  | binary op => cases op <;> rfl
  | _ => rfl

theorem andsOr_bare (e : Expr) : e.bare.andsOr = e.andsOr := by
  cases e with
  | binary op left right => cases op <;> simp [andsOr, isOr_bare]
  | _ => rfl

theorem orsGrouped_iff_of_bare_eq {e e' : Expr} (same : e.bare = e'.bare) : e.OrsGrouped ↔ e'.OrsGrouped :=
  forall_parts_iff (fun e => by rw [andsOr_bare]) same

end Expr

namespace Java

/-! ## The levels of the language and those of Java -/

theorem tightness_lt (op : Operator) : op.tightness < 5 := by
  cases op <;> simp [Operator.tightness]

/-- How tightly an expression holds together in Java. -/
def levelOf : Expr → Nat
  | .binary op _ _ _ _ => precedence op
  | _ => 7

theorem level_javaTree (e : Expr) : e.javaTree.level = levelOf e := by
  have member (owner : Tree) (name : String) : (reach owner (pathOf name)).level = 7 := by
    obtain ⟨first, others, shape⟩ := List.exists_cons_of_ne_nil (pathOf_ne_nil name)
    rw [shape]
    exact level_reach rfl others
  cases e with
  | literal value => cases value <;> rfl
  | ref => exact level_reach rfl _
  | field => exact member _ _
  | _ => rfl

/-- An operator of a tighter level of the language binds tighter in Java. -/
theorem precedence_lt_precedence {op op' : Operator} (known : op.tightness ≠ 0)
    (tighter : op.tightness < op'.tightness) : precedence op < precedence op' := by
  cases op <;> cases op' <;> simp_all [Operator.tightness, precedence]

theorem precedence_lt_levelOf {op : Operator} {e : Expr} (known : op.tightness ≠ 0)
    (tighter : op.tightness < e.tightness) : precedence op < levelOf e := by
  cases e with
  | binary op' => exact precedence_lt_precedence known tighter
  | _ => exact precedence_lt op

/-- On one level of the language, other than that of the comparisons, only `OR` binds looser in Java than
another operator does. -/
theorem precedence_le_precedence_iff {op op' : Operator} (same : op.tightness = op'.tightness)
    (noComparison : op.tightness ≠ 2) : precedence op ≤ precedence op' ↔ ¬ (op = .and ∧ op' = .or) := by
  cases op <;> cases op' <;> simp_all [Operator.tightness, precedence]

theorem tightness_ne_zero {op : Operator} {l r t : Ty} (operates : Operates op l r t) : op.tightness ≠ 0 := by
  cases op with
  | other symbol => exact absurd rfl (known_of_operates operates symbol)
  | _ => decide

theorem comparison_of_operates {op : Operator} {l r t : Ty} (operates : Operates op l r t)
    (isComparison : op.tightness = 2) : Ty.comparable.accepts l ∧ t = .boolean := by
  cases operates with
  | logical listed => cases op <;> simp_all [Operator.tightness]
  | comparison _ comparable => exact ⟨comparable, rfl⟩
  | join => cases isComparison
  | arithmetic listed => cases op <;> simp_all [Operator.tightness]

theorem isOr_binary {op : Operator} {left right : Expr} {offset : Nat} {type : Option Ty} :
    (Expr.binary op left right offset type).isOr ↔ op = .or := by
  cases op <;> simp [Expr.isOr]

theorem tightness_of_isOr {e : Expr} (isOr : e.isOr) : e.tightness = 1 := by
  cases e with
  | binary op =>
    rw [isOr_binary] at isOr
    rw [isOr]
    rfl
  | _ => cases isOr

variable {c : Context}

/-- An operation of the same level may stand on the left. Java groups it alike, unless it is an `OR` and the
operator an `AND`. -/
theorem precedence_le_levelOf_iff {op : Operator} {left : Expr} {l r t : Ty} (first : c.Types left l)
    (operates : Operates op l r t) (atLeast : op.tightness ≤ left.tightness) :
    precedence op ≤ levelOf left ↔ ¬ (op = .and ∧ left.isOr) := by
  have known := tightness_ne_zero operates
  rcases Nat.lt_or_eq_of_le atLeast with tighter | same
  · have noOr : ¬ left.isOr := by
      intro isOr
      rw [tightness_of_isOr isOr] at tighter
      exact known (Nat.lt_one_iff.mp tighter)
    simp [noOr, Nat.le_of_lt (precedence_lt_levelOf known tighter)]
  · cases first with
    | @binary op' left' right' offset l' r' l _ _ operates' _ =>
      have noComparison : op.tightness ≠ 2 := by
        intro isComparison
        -- A comparison is Boolean, and Boolean values are not comparable.
        obtain ⟨comparable, -⟩ := comparison_of_operates operates isComparison
        obtain ⟨-, rfl⟩ := comparison_of_operates operates' (same.symm.trans isComparison)
        cases comparable
      rw [isOr_binary]
      exact precedence_le_precedence_iff same noComparison
    | _ => exact absurd same (Nat.ne_of_lt (tightness_lt op))

/-- Of one operation, Java groups the operands as the language does unless it is an `AND` of an `OR`. -/
theorem levels_iff {op : Operator} {left right : Expr} {l r t : Ty} (offset : Nat) (type : Option Ty)
    (first : c.Types left l) (operates : Operates op l r t)
    (fits : op.tightness ≤ left.tightness ∧ op.tightness < right.tightness) :
    precedence op ≤ left.javaTree.level ∧ precedence op < right.javaTree.level ↔
      ¬ (Expr.binary op left right offset type).andsOr := by
  have known := tightness_ne_zero operates
  have noOr : op = .and → right.isOr = false := by
    rintro rfl
    rw [Bool.eq_false_iff]
    intro isOr
    exact Nat.lt_irrefl _ (tightness_of_isOr isOr ▸ fits.2)
  rw [level_javaTree, level_javaTree, precedence_le_levelOf_iff first operates fits.1,
    and_iff_left (precedence_lt_levelOf known fits.2)]
  cases op <;> simp_all [Expr.andsOr]

/-! ## Trees of checked expressions -/

theorem grouped_reach_iff {owner : Tree} (isOperand : owner.level = 7) (path : List (List Char)) :
    (reach owner path).Grouped ↔ owner.Grouped := by
  induction path generalizing owner with
  | nil => exact Iff.rfl
  | cons part path ih =>
    rw [reach, List.foldl_cons, ← reach, ih rfl, Tree.Grouped]
    exact and_iff_right isOperand

theorem grouped_path (name : String) : (pathTree name).Grouped :=
  (grouped_reach_iff rfl _).mpr trivial

theorem level_of_tightness {e : Expr} (isOperand : e.tightness = 5) : e.javaTree.level = 7 := by
  rw [level_javaTree]
  cases e with
  | binary op => exact absurd isOperand (Nat.ne_of_lt (tightness_lt op))
  | _ => rfl

mutual
/-- Java groups the tree of a checked expression alike if and only if every `OR` of an `AND` stands in
parentheses. -/
theorem grouped_javaTree_iff (e : Expr) {t : Ty} (typed : c.Types e t) (nested : e.Nested) :
    e.javaTree.Grouped ↔ e.OrsGrouped := by
  cases typed with
  | @literal value offset t typed =>
    have grouped : (literalTree value).Grouped := by cases value <;> trivial
    simp [Expr.javaTree, grouped, Expr.OrsGrouped, Expr.parts, Expr.andsOr]
  | @group inner offset t inside =>
    have same := grouped_javaTree_iff inner inside (Expr.nested_group.mp nested)
    simpa [Expr.javaTree, Tree.Grouped, Expr.OrsGrouped, Expr.parts, Expr.andsOr] using same
  | @binary op left right offset l r t first second operates ordered =>
    obtain ⟨fits, nestedLeft, nestedRight⟩ := Expr.nested_binary.mp nested
    have sameLeft := grouped_javaTree_iff left first nestedLeft
    have sameRight := grouped_javaTree_iff right second nestedRight
    have levels := levels_iff offset (some t) first operates fits
    simp only [Expr.OrsGrouped, Expr.parts, List.forall_mem_cons, List.forall_mem_append] at sameLeft sameRight ⊢
    rw [← levels, ← sameLeft, ← sameRight, Expr.javaTree, Tree.Grouped, and_assoc]
  | @ref name offset v found =>
    simp [Expr.javaTree, grouped_path, Expr.OrsGrouped, Expr.parts, Expr.andsOr]
  | @field receiver name offset t v object found =>
    obtain ⟨isOperand, nestedObject⟩ := Expr.nested_field.mp nested
    have same := grouped_javaTree_iff receiver object nestedObject
    rw [Expr.javaTree, grouped_reach_iff (level_of_tightness isOperand), same]
    simp [Expr.OrsGrouped, Expr.parts, Expr.andsOr]
  | @call name args offset types f given found accepted =>
    have same := groupedAll_javaTrees_iff args given (Expr.nested_call.mp nested)
    have isOperand : (pathTree f.javaName).level = 7 := level_reach rfl _
    simp only [Expr.javaTree, Tree.Grouped, Option.map_some, Option.getD_some, isOperand, grouped_path, same,
      true_and]
    simp only [Expr.OrsGrouped, Expr.parts, List.forall_mem_cons, Expr.forall_partsAll, Expr.andsOr,
      Bool.false_eq_true, not_false_eq_true, true_and]
  | @send receiver name args offset t types f given object found =>
    obtain ⟨isOperand, nestedObject, nestedArgs⟩ := Expr.nested_send.mp nested
    have sameObject := grouped_javaTree_iff receiver object nestedObject
    have same := groupedAll_javaTrees_iff args given nestedArgs
    have level := level_of_tightness isOperand
    simp only [Expr.javaTree, Tree.Grouped, level_reach level, grouped_reach_iff level, sameObject, same, true_and]
    simp only [Expr.OrsGrouped, Expr.parts, List.forall_mem_cons, List.forall_mem_append, Expr.forall_partsAll,
      Expr.andsOr, Bool.false_eq_true, not_false_eq_true, true_and]

theorem groupedAll_javaTrees_iff (es : List Expr) {ts : List Ty} (typed : c.TypesAll es ts)
    (nested : ∀ e ∈ es, e.Nested) : Tree.GroupedAll (Expr.javaTrees es) ↔ ∀ e ∈ es, e.OrsGrouped := by
  cases typed with
  | nil => simp [Expr.javaTrees, Tree.GroupedAll]
  | @cons e es t ts first others =>
    obtain ⟨nestedFirst, nestedOthers⟩ := List.forall_mem_cons.mp nested
    have same := grouped_javaTree_iff e first nestedFirst
    have sameAll := groupedAll_javaTrees_iff es others nestedOthers
    rw [Expr.javaTrees, Tree.GroupedAll, same, sameAll, List.forall_mem_cons]
end

/-- A text that is cut into the lexemes of a tree is read as those lexemes are. -/
theorem read_eq {text : String} {tree : Tree} (cuts : Cuts Clear true text.toList tree.lexemes false) :
    read text = readLexemes tree.lexemes := by
  have lexemes := cuts [] clear_nil
  rw [List.append_nil, lexFrom, Option.map_some, List.append_nil] at lexemes
  rw [read, lexemes, Option.bind_some]

end Java

/-- The context of a scope of which nothing is known but what names mean there. -/
def Context.at (catalog : Catalog) (space : Space) (scope : ScopeId) : Context where
  catalog
  outerVariable? := space.lookupVariable? scope
  outerFunction? := space.lookupFunction? scope
  funs := []
  frames := []

theorem Check.types_of_expr {catalog : Catalog} {space : Space} {scope : ScopeId} {e e' : Expr} {t : Ty}
    (checked : Check.expr catalog space scope e = (e', .ok t)) : (Context.at catalog space scope).Types e' t :=
  Check.expr_sound ⟨fun _ => rfl, fun _ _ => rfl⟩ e checked False.elim

/-- A settled expression that nests by its levels is printed, and Java reads its operators regrouped. They are grouped as
they were if and only if every `OR` of an `AND` stands in parentheses. -/
theorem Java.read_printed {c : Context} {e : Expr} {t : Ty} (typed : c.Types e t) (nested : e.Nested)
    (named : e.NamedInJava) :
    ∃ java, Java.expr e = .ok java ∧ Java.read java = some e.javaTree.regrouped ∧
      (Java.read java = some e.javaTree ↔ e.OrsGrouped) := by
  obtain ⟨java, printed, cuts⟩ := Java.printed e typed named
  refine ⟨java, printed, ?_, ?_⟩
  · rw [Java.read_eq cuts, Java.readLexemes_lexemes]
  · rw [Java.read_eq cuts, Java.readLexemes_lexemes_eq_some_iff, Java.grouped_javaTree_iff e typed nested]

/-- An expression that was read from a place of a text and passes the check is printed. Java reads what is
printed as the tree of the expression, with its operators regrouped, and that is the tree as it was if and
only if every `OR` of an `AND` stands in parentheses. -/
theorem java_groups_as_written_iff {text : List Char} {tokens ts rest : List Token} {e e' : Expr}
    {fewer : rest.length < ts.length} {catalog : Catalog} {space : Space} {scope : ScopeId} {t : Ty}
    (lexed : lex text = .ok tokens) (within : ts <:+ tokens)
    (read : Reading.expression ts = .ok ⟨e, rest, fewer⟩)
    (checked : Check.expr catalog space scope e = (e', .ok t)) (named : e'.NamedInJava) :
    ∃ java, Java.expr e' = .ok java ∧ Java.read java = some e'.javaTree.regrouped ∧
      (Java.read java = some e'.javaTree ↔ e.OrsGrouped) := by
  have fit : Reading.Fit ts := fun token mem => lex_wellFormed lexed token (within.subset mem)
  obtain ⟨us, -, derived⟩ := Reading.operation_sound fit read
  have same : e'.bare = e.bare := by
    rw [← Check.bare_expr e, checked]
  have nested : e'.Nested := (Expr.nested_iff_of_bare_eq same).mpr (Grammar.nests_of_derives derived).1
  rw [← Expr.orsGrouped_iff_of_bare_eq same]
  exact Java.read_printed (Check.types_of_expr checked) nested named

open CommandLine (rootWorld)

/-- `TRUE OR TRUE AND FALSE` means `(TRUE OR TRUE) AND FALSE`, and Java reads what is printed for it as
`true || (true && false)`. -/
theorem or_before_and_regrouped :
    ∃ tokens e fewer java, lex "print(TRUE OR TRUE AND FALSE)".toList = .ok tokens ∧
      Reading.expression tokens = .ok ⟨e, [], fewer⟩ ∧
      (Check.expr {} rootWorld.1.space rootWorld.2 e).2 = .ok .nil ∧
      Java.expr (Check.expr {} rootWorld.1.space rootWorld.2 e).1 = .ok java ∧
      Java.read java ≠ some (Check.expr {} rootWorld.1.space rootWorld.2 e).1.javaTree := by
  let tokens : List Token := [⟨.identifier, "print", 0⟩, ⟨.operator, "(", 5⟩, ⟨.operator, "TRUE", 6⟩,
    ⟨.operator, "OR", 11⟩, ⟨.operator, "TRUE", 14⟩, ⟨.operator, "AND", 19⟩, ⟨.operator, "FALSE", 23⟩,
    ⟨.operator, ")", 28⟩]
  let e : Expr := .call "print" [.binary .and (.binary .or (.literal (.bool true) 6) (.literal (.bool true) 14) 6)
    (.literal (.bool false) 23) 6] 0
  have lexed : lex "print(TRUE OR TRUE AND FALSE)".toList = .ok tokens := by decide +kernel
  have read : Reading.expression tokens = .ok ⟨e, [], by decide⟩ := by cbv
  have passed : (Check.expr {} rootWorld.1.space rootWorld.2 e).2 = .ok .nil := by decide +kernel
  have named : (Check.expr {} rootWorld.1.space rootWorld.2 e).1.NamedInJava := by decide +kernel
  obtain ⟨java, printed, -, alike⟩ :=
    java_groups_as_written_iff lexed (List.suffix_refl tokens) read (Prod.ext rfl passed) named
  have ungrouped : ¬ e.OrsGrouped := by decide
  exact ⟨tokens, e, _, java, lexed, read, passed, printed, fun same => ungrouped (alike.mp same)⟩

/-- In a program that was read from a text and passes the check in the scope around programs, all names are paths in
Java, so nothing is asked of them: every expression is printed, and Java groups it as written if and only if every `OR`
of an `AND` in it stands in parentheses. -/
theorem read_printed_of_parseText {text : List Char} {s : Source} {needsMain : Bool} (read : parseText text = .ok s)
    (passed : (checkSource {} needsMain rootWorld.1.space rootWorld.2 s).result = .ok ()) :
    ∀ e ∈ (checkSource {} needsMain rootWorld.1.space rootWorld.2 s).tree.expressions,
      ∃ java, Java.expr e = .ok java ∧ Java.read java = some e.javaTree.regrouped ∧
        (Java.read java = some e.javaTree ↔ e.OrsGrouped) := by
  intro e mem
  obtain ⟨tokens, -, derived⟩ := Grammar.derives_of_parseText read
  have same := Check.bare_checkSource {} needsMain rootWorld.1.space rootWorld.2 s
  have nested := (Source.nested_iff_of_bare_eq same).mpr (Grammar.nests_of_derives derived)
  obtain ⟨c, t, typed⟩ := (Check.settled_checkSource passed).expressions e mem
  have named := (Check.solid_of_parseText read needsMain).namedInJava e mem
  exact Java.read_printed typed (nested.of_mem_expressions e mem) named

end Primer
