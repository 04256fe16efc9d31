import Primer.Java

/-!
# How Java groups operators

What Java takes an expression for, once its text is cut into lexemes. From the loosest to the tightest its
operators are `||`, `&&`, the equalities, the orders, the sums and the products; those of one level group to
the left, and parentheses group as they stand.

The reader goes over the lexemes once. It keeps the operands that it has met, with the operator behind each,
and a stack of the parentheses that are open. Where an expression ends, at a parenthesis, at a comma or at
the end of the text, the operators between its operands are grouped, the tightest first (`regroup`).

**The law** (`readLexemes_lexemes_eq_some_iff`): the lexemes of a tree are read as that tree if and only if
it is grouped as Java groups. What else they are read as is also known: the tree with its operators regrouped
(`readLexemes_lexemes`).

**What it does not establish.** The reader takes more for an expression than Java does, for it does not ask
whether a number is called or a literal has a member.
-/

namespace Primer.Java

/-- A lexeme that is an operand by itself. A number has its sign with it. -/
inductive Word where
  | number (text : List Char)
  | name (text : List Char)
  | quoted (text : List Char)
deriving DecidableEq

/-- The smallest parts of a Java expression. -/
inductive Lexeme where
  | word (w : Word)
  | dot
  | comma
  | opening
  | closing
  | operator (op : Operator)
deriving DecidableEq

/-- What Java takes an expression for. -/
inductive Tree where
  | leaf (w : Word)
  | group (inner : Tree)
  | binary (op : Operator) (left right : Tree)
  | member (owner : Tree) (name : List Char)
  | call (callee : Tree) (args : List Tree)

/-- How tightly an operator binds. The language has no others than these; what else a tree may hold binds
loosest of all. -/
def precedence : Operator → Nat
  | .or => 1
  | .and => 2
  | .eq | .ne => 3
  | .lt | .le | .gt | .ge => 4
  | .add | .sub => 5
  | .mul | .div => 6
  | .other _ => 1

/-! ## Operands and the operators between them -/

/-- An operand, and the others with an operator in front of each. -/
abbrev Chain := Tree × List (Operator × Tree)

/-- Two chains with an operator between them. -/
def Chain.join (left : Chain) (op : Operator) (right : Chain) : Chain :=
  (left.1, left.2 ++ (op, right.1) :: right.2)

/-- Groups the operators of one level, to the left. -/
def merge (level : Nat) (first : Tree) : List (Operator × Tree) → Chain
  | [] => (first, [])
  | (op, next) :: others =>
    if precedence op = level then merge level (.binary op first next) others
    else (first, (op, (merge level next others).1) :: (merge level next others).2)

/-- Groups all operators, the tightest first. -/
def regroup (c : Chain) : Tree :=
  ([6, 5, 4, 3, 2, 1].foldl (fun (c : Chain) level => merge level c.1 c.2) c).1

/-- The chain of an operand and of those before it, each with the operator behind it, the last one first. -/
def unwind : List (Tree × Operator) → Chain → Chain
  | [], c => c
  | (t, op) :: before, c => unwind before (t, (op, c.1) :: c.2)

/-- An expression that ends with an operand. -/
def finish (before : List (Tree × Operator)) (last : Tree) : Tree :=
  regroup (unwind before (last, []))

/-! ## Reading -/

/-- A parenthesis that is open: one that groups, or one behind something that is called, with the arguments
that were read, the last one first. -/
inductive Bracket where
  | group
  | call (callee : Tree) (args : List Tree)

/-- Reads the lexemes of an expression. The stack holds what stood before each open parenthesis; `current`
is the operand that was just read, if one was. -/
def readFrom (stack : List (List (Tree × Operator) × Bracket)) (before : List (Tree × Operator)) :
    (current : Option Tree) → List Lexeme → Option Tree
  | some t, [] => if stack.isEmpty then some (finish before t) else none
  | none, .opening :: ws => readFrom ((before, .group) :: stack) [] none ws
  | none, .closing :: ws =>
    match stack, before with
    | (outer, .call callee []) :: stack, [] => readFrom stack outer (some (.call callee [])) ws
    | _, _ => none
  | none, .word w :: ws => readFrom stack before (some (.leaf w)) ws
  | some t, .operator op :: ws => readFrom stack ((t, op) :: before) none ws
  | some t, .dot :: .word (.name text) :: ws => readFrom stack before (some (.member t text)) ws
  | some t, .opening :: ws => readFrom ((before, .call t []) :: stack) [] none ws
  | some t, .comma :: ws =>
    match stack with
    | (outer, .call callee args) :: stack =>
      readFrom ((outer, .call callee (finish before t :: args)) :: stack) [] none ws
    | _ => none
  | some t, .closing :: ws =>
    match stack with
    | (outer, .group) :: stack => readFrom stack outer (some (.group (finish before t))) ws
    | (outer, .call callee args) :: stack =>
      readFrom stack outer (some (.call callee (finish before t :: args).reverse)) ws
    | [] => none
  | _, _ => none

/-- What the lexemes of an expression are read as. -/
def readLexemes (ws : List Lexeme) : Option Tree :=
  readFrom [] [] none ws

namespace Tree

mutual
/-- The lexemes of a tree, in order. -/
def lexemes : Tree → List Lexeme
  | leaf w => [.word w]
  | group inner => .opening :: inner.lexemes ++ [.closing]
  | binary op left right => left.lexemes ++ .operator op :: right.lexemes
  | member owner name => owner.lexemes ++ [.dot, .word (.name name)]
  | call callee args => callee.lexemes ++ .opening :: (argLexemes args ++ [.closing])

/-- The lexemes of arguments, with commas between them. -/
def argLexemes : List Tree → List Lexeme
  | [] => []
  | t :: ts => t.lexemes ++ moreLexemes ts

/-- The lexemes of further arguments. -/
def moreLexemes : List Tree → List Lexeme
  | [] => []
  | t :: ts => .comma :: t.lexemes ++ moreLexemes ts
end

mutual
/-- The last operand of a tree, and those before it, each with the operator behind it, the last one first.
Inside parentheses and arguments, operators are grouped as Java groups them. -/
def operands : Tree → List (Tree × Operator) × Tree
  | leaf w => ([], leaf w)
  | group inner => ([], group (finish inner.operands.1 inner.operands.2))
  | binary op left right =>
    (right.operands.1 ++ (left.operands.2, op) :: left.operands.1, right.operands.2)
  | member owner name => (owner.operands.1, member owner.operands.2 name)
  | call callee args => (callee.operands.1, call callee.operands.2 (regroupedAll args))

/-- Trees with their operators grouped as Java groups them. -/
def regroupedAll : List Tree → List Tree
  | [] => []
  | t :: ts => finish t.operands.1 t.operands.2 :: regroupedAll ts
end

/-- A tree with its operators grouped as Java groups them. -/
def regrouped (t : Tree) : Tree :=
  finish t.operands.1 t.operands.2

end Tree

/-! ## The lexemes of a tree are read as the tree regrouped -/

mutual
theorem readFrom_lexemes (stack : List (List (Tree × Operator) × Bracket)) (before : List (Tree × Operator))
    (t : Tree) (ws : List Lexeme) :
    readFrom stack before none (t.lexemes ++ ws) =
      readFrom stack (t.operands.1 ++ before) (some t.operands.2) ws := by
  cases t with
  | leaf w => rfl
  | group inner =>
    simp only [Tree.lexemes, List.cons_append, List.append_assoc, List.nil_append, readFrom]
    rw [readFrom_lexemes _ _ inner]
    simp only [readFrom, Tree.operands, List.append_nil, List.nil_append]
  | binary op left right =>
    rw [Tree.lexemes, List.append_assoc, List.cons_append, readFrom_lexemes _ _ left, readFrom,
      readFrom_lexemes _ _ right]
    simp only [Tree.operands, List.append_assoc, List.cons_append]
  | member owner name =>
    rw [Tree.lexemes, List.append_assoc, readFrom_lexemes _ _ owner]
    rfl
  | call callee args =>
    rw [Tree.lexemes, List.append_assoc, readFrom_lexemes _ _ callee, List.cons_append, readFrom,
      List.append_assoc, Tree.operands]
    cases args with
    | nil => rfl
    | cons t ts =>
      rw [Tree.argLexemes, List.append_assoc, readFrom_lexemes _ _ t, List.cons_append,
        readFrom_moreLexemes]
      simp only [List.append_nil, List.reverse_nil, List.nil_append, Tree.regroupedAll]

/-- Further arguments are read up to the parenthesis that closes them. -/
theorem readFrom_moreLexemes (stack : List (List (Tree × Operator) × Bracket))
    (outer before : List (Tree × Operator)) (callee current : Tree) (args ts : List Tree) (ws : List Lexeme) :
    readFrom ((outer, .call callee args) :: stack) before (some current)
        (Tree.moreLexemes ts ++ .closing :: ws) =
      readFrom stack outer
        (some (.call callee (args.reverse ++ finish before current :: Tree.regroupedAll ts))) ws := by
  cases ts with
  | nil => simp only [Tree.moreLexemes, List.nil_append, readFrom, List.reverse_cons, Tree.regroupedAll]
  | cons t ts =>
    rw [Tree.moreLexemes, List.cons_append, List.cons_append, List.append_assoc, readFrom,
      readFrom_lexemes _ _ t, readFrom_moreLexemes]
    simp only [List.append_nil, List.reverse_cons, List.append_assoc, List.cons_append, List.nil_append,
      Tree.regroupedAll]
end

theorem readLexemes_lexemes (t : Tree) : readLexemes t.lexemes = some t.regrouped := by
  have read := readFrom_lexemes [] [] t []
  rw [List.append_nil, List.append_nil] at read
  rw [readLexemes, read]
  rfl

/-! ## Trees that are grouped as Java groups -/

namespace Tree

/-- How tightly a tree holds together: an operation as its operator binds, and an operand tighter than all
of them. -/
def level : Tree → Nat
  | binary op _ _ => precedence op
  | _ => 7

mutual
/-- That a tree is grouped as Java groups: the operands of an operation hold together as tightly as its
operator binds, the right one tighter still. -/
def Grouped : Tree → Prop
  | leaf _ => True
  | group inner => inner.Grouped
  | binary op left right =>
    precedence op ≤ left.level ∧ precedence op < right.level ∧ left.Grouped ∧ right.Grouped
  | member owner _ => owner.level = 7 ∧ owner.Grouped
  | call callee args => callee.level = 7 ∧ callee.Grouped ∧ GroupedAll args

/-- That trees are grouped as Java groups. -/
def GroupedAll : List Tree → Prop
  | [] => True
  | t :: ts => t.Grouped ∧ GroupedAll ts
end

/-- The operands of a tree and the operators between them that bind looser than a level. -/
def chain (k : Nat) : Tree → Chain
  | binary op left right =>
    if precedence op < k then (left.chain k).join op (right.chain k) else (binary op left right, [])
  | t => (t, [])

variable {t : Tree} {k : Nat}

theorem chain_of_le (le : k ≤ t.level) : t.chain k = (t, []) := by
  cases t with
  | binary op left right => exact if_neg (Nat.not_lt_of_le le)
  | _ => rfl

end Tree

theorem precedence_pos (op : Operator) : 0 < precedence op := by
  cases op <;> simp [precedence]

theorem precedence_lt (op : Operator) : precedence op < 7 := by
  cases op <;> simp [precedence]

theorem Tree.level_pos (t : Tree) : 0 < t.level := by
  cases t with
  | binary op left right => exact precedence_pos op
  | _ => exact Nat.succ_pos 6

/-! ## Grouping a grouped tree anew -/

section

variable {k : Nat} {op : Operator}

/-- An operator of another level stays between what is merged on its sides. -/
theorem merge_join (other : precedence op ≠ k) (first next : Tree) (before behind : List (Operator × Tree)) :
    merge k first (before ++ (op, next) :: behind) =
      Chain.join (merge k first before) op (merge k next behind) := by
  induction before generalizing first with
  | nil => simp [merge, other, Chain.join]
  | cons pair before ih =>
    rw [List.cons_append, merge, merge]
    split
    next => exact ih _
    next => simp [ih, Chain.join]

/-- An operator of the level joins a last operand to what was merged. -/
theorem merge_last {first whole last : Tree} {before : List (Operator × Tree)} (same : precedence op = k)
    (merged : merge k first before = (whole, [])) :
    merge k first (before ++ [(op, last)]) = (.binary op whole last, []) := by
  induction before generalizing first with
  | nil =>
    cases merged
    simp [merge, same]
  | cons pair before ih =>
    rw [merge] at merged
    rw [List.cons_append, merge]
    split at merged
    next isLevel =>
      rw [if_pos isLevel]
      exact ih merged
    next => cases merged

/-- The operators of one level are grouped as they were. -/
theorem merge_chain (t : Tree) (grouped : t.Grouped) :
    merge k (t.chain (k + 1)).1 (t.chain (k + 1)).2 = t.chain k := by
  cases t with
  | leaf w => rfl
  | group inner => rfl
  | member owner name => rfl
  | call callee args => rfl
  | binary op left right =>
    obtain ⟨leftLevel, rightLevel, leftGrouped, rightGrouped⟩ := grouped
    rcases Nat.lt_trichotomy (precedence op) k with looser | same | tighter
    · have looser' : precedence op < k + 1 := Nat.lt_succ_of_lt looser
      rw [Tree.chain, if_pos looser', Chain.join, merge_join (Nat.ne_of_lt looser), merge_chain left leftGrouped,
        merge_chain right rightGrouped, Tree.chain, if_pos looser]
    · have here : precedence op < k + 1 := same ▸ Nat.lt_succ_self _
      have whole : left.chain k = (left, []) := Tree.chain_of_le (same ▸ leftLevel)
      have last : right.chain (k + 1) = (right, []) := Tree.chain_of_le (same ▸ rightLevel)
      have merged := merge_chain left leftGrouped
      rw [whole] at merged
      rw [Tree.chain, if_pos here, Chain.join, last, merge_last same merged,
        Tree.chain_of_le (Nat.le_of_eq same.symm)]
    · have kept : (Tree.binary op left right).chain (k + 1) = (.binary op left right, []) :=
        Tree.chain_of_le tighter
      rw [kept, Tree.chain_of_le (Nat.le_of_lt tighter)]
      rfl

theorem regroup_chain {t : Tree} (grouped : t.Grouped) : regroup (t.chain 7) = t := by
  simp only [regroup, List.foldl_cons, List.foldl_nil, merge_chain t grouped]
  rw [Tree.chain_of_le t.level_pos]

end

mutual
/-- A grouped tree that is no operation is an operand as it stands. -/
theorem operands_eq (t : Tree) (grouped : t.Grouped) (isOperand : t.level = 7) : t.operands = ([], t) := by
  cases t with
  | leaf w => rfl
  | group inner =>
    rw [Tree.operands, finish_operands inner grouped]
  | binary op left right => exact absurd isOperand (Nat.ne_of_lt (precedence_lt op))
  | member owner name => rw [Tree.operands, operands_eq owner grouped.2 grouped.1]
  | call callee args =>
    rw [Tree.operands, operands_eq callee grouped.2.1 grouped.1, regroupedAll_eq args grouped.2.2]
termination_by (sizeOf t, 0)

/-- The operands of a grouped tree are those of its chain. -/
theorem unwind_operands (t : Tree) (grouped : t.Grouped) (before : List (Tree × Operator))
    (others : List (Operator × Tree)) :
    unwind (t.operands.1 ++ before) (t.operands.2, others) =
      unwind before ((t.chain 7).1, (t.chain 7).2 ++ others) := by
  by_cases isOperand : t.level = 7
  · rw [operands_eq t grouped isOperand, Tree.chain_of_le (Nat.le_of_eq isOperand.symm)]
    rfl
  cases t with
  | binary op left right =>
    obtain ⟨-, -, leftGrouped, rightGrouped⟩ := grouped
    simp only [Tree.operands, List.append_assoc, List.cons_append]
    rw [unwind_operands right rightGrouped, unwind, unwind_operands left leftGrouped, Tree.chain,
      if_pos (precedence_lt op), Chain.join, List.append_assoc, List.cons_append]
  | _ => exact absurd rfl isOperand
termination_by (sizeOf t, 1)

theorem finish_operands (t : Tree) (grouped : t.Grouped) : finish t.operands.1 t.operands.2 = t := by
  have unwound := unwind_operands t grouped [] []
  rw [List.append_nil, List.append_nil] at unwound
  rw [finish, unwound]
  exact regroup_chain grouped
termination_by (sizeOf t, 2)

theorem regroupedAll_eq (ts : List Tree) (grouped : Tree.GroupedAll ts) : Tree.regroupedAll ts = ts := by
  cases ts with
  | nil => rfl
  | cons t ts => rw [Tree.regroupedAll, finish_operands t grouped.1, regroupedAll_eq ts grouped.2]
termination_by (sizeOf ts, 0)
end

/-! ## What is grouped anew is grouped -/

/-- That all operands of a chain are grouped and hold together as tightly as a level, and that all operators
between them bind looser. -/
structure Chain.Within (k : Nat) (c : Chain) : Prop where
  first : c.1.Grouped ∧ k ≤ c.1.level
  others : ∀ p ∈ c.2, precedence p.1 < k ∧ p.2.Grouped ∧ k ≤ p.2.level

theorem merge_within {k : Nat} {first : Tree} {others : List (Operator × Tree)}
    (isFirst : first.Grouped ∧ k ≤ first.level)
    (areOthers : ∀ p ∈ others, precedence p.1 < k + 1 ∧ p.2.Grouped ∧ k + 1 ≤ p.2.level) :
    (merge k first others).Within k := by
  induction others generalizing first with
  | nil => exact ⟨isFirst, by simp [merge]⟩
  | cons pair others ih =>
    obtain ⟨⟨looser, grouped, tight⟩, more⟩ := List.forall_mem_cons.mp areOthers
    rw [merge]
    split
    next same =>
      refine ih ⟨⟨?_, ?_, isFirst.1, grouped⟩, ?_⟩ more
      · exact same ▸ isFirst.2
      · exact same ▸ tight
      · exact Nat.le_of_eq same.symm
    next other =>
      have within := ih ⟨grouped, Nat.le_of_succ_le tight⟩ more
      refine ⟨isFirst, List.forall_mem_cons.mpr ⟨⟨?_, within.first⟩, within.others⟩⟩
      exact Nat.lt_of_le_of_ne (Nat.le_of_lt_succ looser) other

theorem Chain.Within.merge {k : Nat} {c : Chain} (within : c.Within (k + 1)) : (merge k c.1 c.2).Within k :=
  merge_within ⟨within.first.1, Nat.le_of_succ_le within.first.2⟩ within.others

theorem grouped_regroup {c : Chain} (within : c.Within 7) : (regroup c).Grouped :=
  within.merge.merge.merge.merge.merge.merge.first.1

theorem unwind_within {before : List (Tree × Operator)} {c : Chain}
    (grouped : ∀ p ∈ before, p.1.Grouped ∧ p.1.level = 7) (within : c.Within 7) : (unwind before c).Within 7 := by
  induction before generalizing c with
  | nil => exact within
  | cons pair before ih =>
    obtain ⟨isFirst, more⟩ := List.forall_mem_cons.mp grouped
    refine ih more ⟨⟨isFirst.1, Nat.le_of_eq isFirst.2.symm⟩, ?_⟩
    exact List.forall_mem_cons.mpr ⟨⟨precedence_lt _, within.first⟩, within.others⟩

theorem grouped_finish {before : List (Tree × Operator)} {last : Tree}
    (grouped : ∀ p ∈ before, p.1.Grouped ∧ p.1.level = 7) (isLast : last.Grouped ∧ last.level = 7) :
    (finish before last).Grouped :=
  grouped_regroup (unwind_within grouped ⟨⟨isLast.1, Nat.le_of_eq isLast.2.symm⟩, by simp⟩)

mutual
theorem grouped_operands (t : Tree) :
    (∀ p ∈ t.operands.1, p.1.Grouped ∧ p.1.level = 7) ∧ t.operands.2.Grouped ∧ t.operands.2.level = 7 := by
  cases t with
  | leaf w => exact ⟨by simp [Tree.operands], trivial, rfl⟩
  | group inner =>
    obtain ⟨before, last⟩ := grouped_operands inner
    exact ⟨by simp [Tree.operands], grouped_finish before last, rfl⟩
  | binary op left right =>
    obtain ⟨beforeLeft, lastLeft⟩ := grouped_operands left
    obtain ⟨beforeRight, lastRight⟩ := grouped_operands right
    refine ⟨fun p mem => ?_, lastRight⟩
    rcases List.mem_append.mp mem with mem | mem
    · exact beforeRight p mem
    rcases List.mem_cons.mp mem with rfl | mem
    · exact lastLeft
    · exact beforeLeft p mem
  | member owner name =>
    obtain ⟨before, grouped, isOperand⟩ := grouped_operands owner
    exact ⟨before, ⟨isOperand, grouped⟩, rfl⟩
  | call callee args =>
    obtain ⟨before, grouped, isOperand⟩ := grouped_operands callee
    exact ⟨before, ⟨isOperand, grouped, grouped_regroupedAll args⟩, rfl⟩

theorem grouped_regroupedAll (ts : List Tree) : Tree.GroupedAll (Tree.regroupedAll ts) := by
  cases ts with
  | nil => trivial
  | cons t ts =>
    obtain ⟨before, last⟩ := grouped_operands t
    exact ⟨grouped_finish before last, grouped_regroupedAll ts⟩
end

/-- The lexemes of a tree are read as that tree if it is grouped as Java groups, and otherwise as another. -/
theorem readLexemes_lexemes_eq_some_iff (t : Tree) : readLexemes t.lexemes = some t ↔ t.Grouped := by
  rw [readLexemes_lexemes, Option.some_inj]
  constructor
  · intro same
    obtain ⟨before, last⟩ := grouped_operands t
    rw [← same]
    exact grouped_finish before last
  · exact finish_operands t

end Primer.Java
