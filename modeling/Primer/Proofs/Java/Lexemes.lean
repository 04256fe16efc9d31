import Mathlib
import Primer.Proofs.Java.Grouping
import Primer.Proofs.Tree.Solid

/-!
# The lexemes of a Java text

How the text of a Java expression is cut into lexemes, the longest first. A minus belongs to a number where
an operand is due, and is an operator elsewhere; a point belongs to a number if a digit follows.

`Cuts` says that a stretch of text is cut in a certain way whatever follows it. A name or a number asks of
what follows that it does not go on with them (`Clear`), the other lexemes ask nothing. Stretches may be put
in a row where the one is such as the other asks (`Cuts.append`).
-/

namespace Primer.Java

/-! ## Cutting -/

/-- The length of a point and the digits behind it, if there are any. -/
def fractionLength : List Char → Nat
  | '.' :: cs => if (cs.takeWhile Char.isDigit).isEmpty then 0 else 1 + (cs.takeWhile Char.isDigit).length
  | _ => 0

/-- The length of a sign. -/
def signLength : List Char → Nat
  | '+' :: _ => 1
  | '-' :: _ => 1
  | _ => 0

/-- The length of a letter `e`, a sign or none, and digits, if there are any. -/
def powerLength : List Char → Nat
  | [] => 0
  | c :: cs =>
    let ds := (cs.drop (signLength cs)).takeWhile Char.isDigit
    if (c == 'E' || c == 'e') && !ds.isEmpty then 1 + signLength cs + ds.length else 0

/-- The length of a number without a sign. -/
def numberLength (cs : List Char) : Nat :=
  let whole := (cs.takeWhile Char.isDigit).length
  let fraction := fractionLength (cs.drop whole)
  whole + fraction + powerLength (cs.drop (whole + fraction))

/-- The length of the rest of a literal that ends with this quote, the quote included. -/
def quotedLength? (quote : Char) : List Char → Option Nat
  | [] => none
  | '\\' :: _ :: cs => (quotedLength? quote cs).map (2 + ·)
  | c :: cs => if c == quote then some 1 else (quotedLength? quote cs).map (1 + ·)

/-- A symbol at the front of a text, and its length. -/
def symbol? : List Char → Option (Lexeme × Nat)
  | '|' :: '|' :: _ => some (.operator .or, 2)
  | '&' :: '&' :: _ => some (.operator .and, 2)
  | '=' :: '=' :: _ => some (.operator .eq, 2)
  | '!' :: '=' :: _ => some (.operator .ne, 2)
  | '<' :: '=' :: _ => some (.operator .le, 2)
  | '>' :: '=' :: _ => some (.operator .ge, 2)
  | '<' :: _ => some (.operator .lt, 1)
  | '>' :: _ => some (.operator .gt, 1)
  | '+' :: _ => some (.operator .add, 1)
  | '-' :: _ => some (.operator .sub, 1)
  | '*' :: _ => some (.operator .mul, 1)
  | '/' :: _ => some (.operator .div, 1)
  | '(' :: _ => some (.opening, 1)
  | ')' :: _ => some (.closing, 1)
  | ',' :: _ => some (.comma, 1)
  | '.' :: _ => some (.dot, 1)
  | _ => none

/-- The lexeme at the front of a text, and its length. -/
def front? (operandDue : Bool) (c : Char) (cs : List Char) : Option (Lexeme × Nat) :=
  if c.isDigit then
    some (.word (.number ((c :: cs).take (numberLength (c :: cs)))), numberLength (c :: cs))
  else if c == '-' && operandDue && cs.head?.any Char.isDigit then
    some (.word (.number (c :: cs.take (numberLength cs))), 1 + numberLength cs)
  else if isNameStart c then
    some (.word (.name (c :: cs.takeWhile isNamePart)), 1 + (cs.takeWhile isNamePart).length)
  else if c == '\x27' || c == '\x22' then
    (quotedLength? c cs).map fun n => (.word (.quoted (c :: cs.take n)), 1 + n)
  else symbol? (c :: cs)

/-- Whether an operand is due behind a lexeme. -/
def Lexeme.leads : Lexeme → Bool
  | operator _ | opening | comma => true
  | _ => false

/-- The lexemes of a text. -/
def lexFrom (operandDue : Bool) : List Char → Option (List Lexeme)
  | [] => some []
  | c :: cs =>
    if c.isWhitespace then lexFrom operandDue cs
    else match front? operandDue c cs with
      | none => none
      | some (w, n) => (lexFrom w.leads (cs.drop (n - 1))).map (w :: ·)
termination_by cs => cs.length
decreasing_by all_goals simp only [List.length_cons, List.length_drop]; omega

/-- What Java takes the text of an expression for. -/
def read (text : String) : Option Tree :=
  (lexFrom true text.toList).bind readLexemes

/-! ## Stretches of text -/

/-- That a text does not go on with a name or a number. -/
def Clear (cs : List Char) : Prop :=
  (∀ c ∈ cs.head?, ¬ isNamePart c) ∧ ∀ d ds, cs = '.' :: d :: ds → ¬ d.isDigit

/-- Nothing is asked of a text. -/
def Anything (_ : List Char) : Prop :=
  True

/-- That a stretch of text is cut into lexemes whatever follows of a sort, and whether an operand is due
before it and behind it. -/
def Cuts (follows : List Char → Prop) (due : Bool) (cs : List Char) (ws : List Lexeme) (next : Bool) : Prop :=
  ∀ rest, follows rest → lexFrom due (cs ++ rest) = (lexFrom next rest).map (ws ++ ·)

variable {follows : List Char → Prop} {due next last : Bool} {cs ds : List Char} {ws vs : List Lexeme} {c : Char}

theorem clear_nil : Clear [] :=
  ⟨by simp, by simp⟩

theorem clear_cons (other : ¬ isNamePart c) (noPoint : c ≠ '.') : Clear (c :: cs) :=
  ⟨by simpa using other, by simp [noPoint]⟩

theorem clear_point (name : ¬ c.isDigit) : Clear ('.' :: c :: cs) :=
  ⟨by simp [isNamePart, isNameStart], by simpa using name⟩

/-- One stretch behind another. -/
theorem Cuts.append {between : List Char → Prop} (first : Cuts between due cs ws next)
    (second : Cuts follows next ds vs last) (fits : ∀ rest, follows rest → between (ds ++ rest)) :
    Cuts follows due (cs ++ ds) (ws ++ vs) last := by
  intro rest isRest
  rw [List.append_assoc, first _ (fits rest isRest), second rest isRest, Option.map_map]
  simp [Function.comp_def]

/-- A stretch behind one that ends whatever follows. -/
theorem Cuts.then (first : Cuts Anything due cs ws next) (second : Cuts follows next ds vs last) :
    Cuts follows due (cs ++ ds) (ws ++ vs) last :=
  first.append second fun _ _ => trivial

theorem Cuts.of_anything (cuts : Cuts Anything due cs ws next) : Cuts follows due cs ws next := by
  intro rest _
  exact cuts rest trivial

/-- One lexeme. -/
theorem cuts_of_front? {w : Lexeme} (noBlank : ¬ c.isWhitespace)
    (found : ∀ rest, follows rest → front? due c (cs ++ rest) = some (w, cs.length + 1)) :
    Cuts follows due (c :: cs) [w] w.leads := by
  intro rest isRest
  rw [List.cons_append, lexFrom, if_neg noBlank, found rest isRest]
  simp

theorem cuts_opening : Cuts Anything due ['('] [.opening] true :=
  cuts_of_front? (by decide) fun _ _ => by simp [front?, symbol?, isNameStart]

theorem cuts_closing : Cuts Anything due [')'] [.closing] false :=
  cuts_of_front? (by decide) fun _ _ => by simp [front?, symbol?, isNameStart]

theorem cuts_comma : Cuts Anything due [',', ' '] [.comma] true := by
  intro rest _
  simp [lexFrom, front?, symbol?, isNameStart, Lexeme.leads]

theorem cuts_dot : Cuts Anything due ['.'] [.dot] false :=
  cuts_of_front? (by decide) fun _ _ => by simp [front?, symbol?, isNameStart]

/-- An operator that stands between blanks. -/
theorem cuts_operator {op : Operator} (known : ∀ symbol, op ≠ .other symbol) :
    Cuts Anything false (' ' :: (operator op).toList ++ [' ']) [.operator op] true := by
  intro rest _
  cases op with
  | other symbol => exact absurd rfl (known symbol)
  | _ => simp [operator, Operator.symbol, lexFrom, front?, symbol?, isNameStart, Lexeme.leads]

/-! ## Names -/

theorem not_isDigit_of_isNameStart (start : isNameStart c) : ¬ c.isDigit := by
  simp only [isNameStart, Char.isAlpha, Char.isUpper, Char.isLower, Bool.or_eq_true, Bool.and_eq_true,
    decide_eq_true_eq, beq_iff_eq] at start
  simp only [Char.isDigit, Bool.and_eq_true, decide_eq_true_eq]
  rcases start with (letter | rfl) | rfl
  · grind
  · decide
  · decide

theorem not_isWhitespace_of_isNamePart (part : isNamePart c) : ¬ c.isWhitespace := by
  intro blank
  simp only [Char.isWhitespace, Bool.or_eq_true, decide_eq_true_eq] at blank
  rcases blank with ((rfl | rfl) | rfl) | rfl <;> revert part <;> decide

/-- A run of characters of a sort ends where another one stands. -/
theorem takeWhile_eq {sort : Char → Bool} {ds rest : List Char} (all : ∀ d ∈ ds, sort d)
    (ends : ∀ c ∈ rest.head?, ¬ sort c) : (ds ++ rest).takeWhile sort = ds := by
  rw [List.takeWhile_append_of_pos all]
  cases rest with
  | nil => simp
  | cons c rest =>
    have other : ¬ sort c := ends c rfl
    rw [List.takeWhile_cons_of_neg other, List.append_nil]

theorem cuts_name (name : isName cs) : Cuts Clear due cs [.word (.name cs)] false := by
  cases cs with
  | nil => cases name
  | cons c cs =>
    simp only [isName, Bool.and_eq_true, List.all_eq_true] at name
    obtain ⟨first, others⟩ := name
    have part : isNamePart c := by simp [isNamePart, first]
    have noMinus : c ≠ '-' := by
      rintro rfl
      exact absurd first (by decide)
    refine cuts_of_front? (not_isWhitespace_of_isNamePart part) fun rest clear => ?_
    simp [front?, not_isDigit_of_isNameStart first, noMinus, first, takeWhile_eq others clear.1, Nat.add_comm]

/-! ## Numbers -/

/-- Digits, at least one. -/
def IsDigits (ds : List Char) : Prop :=
  ds ≠ [] ∧ ∀ d ∈ ds, d.isDigit

/-- A number without a sign: digits, a point with digits behind it or none, and a power of ten or none. -/
inductive IsNumber : List Char → Prop
  | number {whole fraction power : List Char} (isWhole : IsDigits whole)
      (isFraction : fraction = [] ∨ ∃ ds, fraction = '.' :: ds ∧ IsDigits ds)
      (isPower : power = [] ∨ ∃ sign ds, power = 'E' :: sign :: ds ∧ (sign = '+' ∨ sign = '-') ∧ IsDigits ds) :
      IsNumber (whole ++ fraction ++ power)

theorem not_isDigit_of_clear {rest : List Char} (clear : Clear rest) : ∀ c ∈ rest.head?, ¬ c.isDigit := by
  intro c first digit
  exact clear.1 c first (by simp [isNamePart, digit])

theorem fractionLength_of_clear {rest : List Char} (clear : Clear rest) : fractionLength rest = 0 := by
  unfold fractionLength
  split
  next cs =>
    have none : cs.takeWhile Char.isDigit = [] := by
      cases cs with
      | nil => rfl
      | cons d ds => exact List.takeWhile_cons_of_neg (clear.2 d ds rfl)
    simp [none]
  next => rfl

theorem powerLength_of_clear {rest : List Char} (clear : Clear rest) : powerLength rest = 0 := by
  cases rest with
  | nil => rfl
  | cons c cs =>
    have other : (c == 'E' || c == 'e') = false := by
      by_contra isLetter
      rw [Bool.not_eq_false, Bool.or_eq_true, beq_iff_eq, beq_iff_eq] at isLetter
      rcases isLetter with rfl | rfl <;> exact clear.1 _ rfl (by decide)
    simp [powerLength, other]

theorem powerLength_append {power rest : List Char}
    (isPower : power = [] ∨ ∃ sign ds, power = 'E' :: sign :: ds ∧ (sign = '+' ∨ sign = '-') ∧ IsDigits ds)
    (clear : Clear rest) : powerLength (power ++ rest) = power.length := by
  rcases isPower with rfl | ⟨sign, ds, rfl, isSign, nonempty, digits⟩
  · exact powerLength_of_clear clear
  · have run : (ds ++ rest).takeWhile Char.isDigit = ds := takeWhile_eq digits (not_isDigit_of_clear clear)
    rcases isSign with rfl | rfl <;> simp [powerLength, signLength, run, nonempty] <;> omega

theorem head_of_power {power rest : List Char}
    (isPower : power = [] ∨ ∃ sign ds, power = 'E' :: sign :: ds ∧ (sign = '+' ∨ sign = '-') ∧ IsDigits ds)
    (clear : Clear rest) : ∀ c ∈ (power ++ rest).head?, ¬ c.isDigit := by
  rcases isPower with rfl | ⟨sign, ds, rfl, -⟩
  · exact not_isDigit_of_clear clear
  · simp

theorem numberLength_append {rest : List Char} (number : IsNumber cs) (clear : Clear rest) :
    numberLength (cs ++ rest) = cs.length := by
  cases number with
  | @number whole fraction power isWhole isFraction isPower =>
    have behind := head_of_power isPower clear
    have measured : fractionLength (fraction ++ (power ++ rest)) = fraction.length := by
      rcases isFraction with rfl | ⟨ds, rfl, nonempty, digits⟩
      · rcases isPower with rfl | ⟨sign, ds, rfl, -⟩
        · exact fractionLength_of_clear clear
        · rfl
      · simp [fractionLength, takeWhile_eq digits behind, nonempty, Nat.add_comm]
    have ends : ∀ c ∈ (fraction ++ (power ++ rest)).head?, ¬ c.isDigit := by
      rcases isFraction with rfl | ⟨ds, rfl, -⟩
      · exact behind
      · simp
    have run : (whole ++ (fraction ++ (power ++ rest))).takeWhile Char.isDigit = whole :=
      takeWhile_eq isWhole.2 ends
    simp only [List.append_assoc, numberLength, run, List.drop_left, measured, List.length_append]
    rw [← List.drop_drop, List.drop_left, List.drop_left, powerLength_append isPower clear]
    omega

theorem IsNumber.exists_cons (number : IsNumber cs) : ∃ d ds, cs = d :: ds ∧ d.isDigit := by
  cases number with
  | number isWhole _ _ =>
    obtain ⟨d, ds, rfl⟩ := List.exists_cons_of_ne_nil isWhole.1
    exact ⟨d, _, rfl, isWhole.2 d List.mem_cons_self⟩

theorem cuts_number (number : IsNumber cs) : Cuts Clear due cs [.word (.number cs)] false := by
  obtain ⟨d, ds, rfl, digit⟩ := number.exists_cons
  have part : isNamePart d := by simp [isNamePart, digit]
  refine cuts_of_front? (not_isWhitespace_of_isNamePart part) fun rest clear => ?_
  have length := numberLength_append number clear
  rw [List.cons_append] at length
  simp [front?, digit, length]

/-- A minus and a number, where an operand is due. -/
theorem cuts_negative (number : IsNumber cs) :
    Cuts Clear true ('-' :: cs) [.word (.number ('-' :: cs))] false := by
  refine cuts_of_front? (by decide) fun rest clear => ?_
  have length := numberLength_append number clear
  obtain ⟨d, ds, rfl, digit⟩ := number.exists_cons
  rw [List.cons_append] at length
  simp [front?, digit, length, Nat.add_comm]

/-! ## Quoted literals -/

theorem quotedLength?_escaped {quote : Char} (isQuote : quote ≠ '\\') (text rest : List Char) :
    quotedLength? quote (text.flatMap (Text.escapedChar quote) ++ quote :: rest) =
      some ((text.flatMap (Text.escapedChar quote)).length + 1) := by
  induction text with
  | nil =>
    rw [List.flatMap_nil, List.nil_append, quotedLength?.eq_def]
    simp [isQuote]
  | cons c text ih =>
    rw [List.flatMap_cons, List.append_assoc, List.length_append]
    generalize text.flatMap (Text.escapedChar quote) = body at ih ⊢
    unfold Text.escapedChar
    split
    next => simp [quotedLength?, ih, Nat.add_comm, Nat.add_left_comm]
    next notQuote =>
      split
      next letter _ => simp [quotedLength?, ih, Nat.add_comm, Nat.add_left_comm]
      next plain =>
        have noEscape : c ≠ '\\' := by
          rintro rfl
          cases plain
        have other : (c == quote) = false := by simpa using notQuote
        rw [List.singleton_append, quotedLength?.eq_def]
        split
        next => contradiction
        next isEscape => exact absurd (List.cons.inj isEscape).1 noEscape
        next isFirst =>
          obtain ⟨rfl, rfl⟩ := List.cons.inj isFirst
          simp [other, ih, Nat.add_comm]

theorem cuts_quoted {quote : Char} (isQuote : quote = '\x27' ∨ quote = '\x22') (text : List Char) :
    Cuts Anything due (Text.escape quote text) [.word (.quoted (Text.escape quote text))] false := by
  have noEscape : quote ≠ '\\' := by rcases isQuote with rfl | rfl <;> decide
  have noDigit : ¬ quote.isDigit := by rcases isQuote with rfl | rfl <;> decide
  have noName : ¬ isNameStart quote := by rcases isQuote with rfl | rfl <;> decide
  have noMinus : quote ≠ '-' := by rcases isQuote with rfl | rfl <;> decide
  have noBlank : ¬ quote.isWhitespace := by rcases isQuote with rfl | rfl <;> decide
  have isEither : (quote == '\x27' || quote == '\x22') = true := by rcases isQuote with rfl | rfl <;> decide
  rw [Text.escape, List.cons_append]
  refine cuts_of_front? noBlank fun rest _ => ?_
  have length := quotedLength?_escaped noEscape text rest
  rw [List.append_assoc, List.singleton_append]
  simp only [front?, noDigit, noName, beq_false_of_ne noMinus, isEither, length, Bool.false_and]
  simp [List.take_append, Nat.add_comm]

end Primer.Java
