import Primer.Proofs.Check.Solid
import Primer.Proofs.Java.Layout
import Primer.Proofs.Java.Writable
import Primer.Proofs.Token.Escaped

/-!
# Printed programs are laid out

What is printed is followed here with a cursor. An expression stands inside a line and leaves nothing open (`IsFlat`). A
statement begins a line at the depth of its nesting and ends inside a line, with as many braces open (`Stands`), and the
inside of a block leads from behind its opening brace to behind the closing one (`moves_block`). All this depends on the
names and operators that are printed as they stand, which have to be solid; literals are escaped, so any text can be in
them.

**The law** (`printed_source_is_laid_out`): a program that was read from a text and passes the check is printed, and
what is printed is laid out.
-/

namespace Primer

namespace Java

open Cursor
open Text (isMark isSolid)

variable {us vs : List Char} {braces depth : Nat}

/-! ## Texts inside a line -/

/-- That a text can stand in the code of a line, and leaves nothing open. -/
def Inline (text : List Char) : Prop :=
  ∀ braces, Moves (within braces) text (within braces)

theorem Inline.append (first : Inline us) (second : Inline vs) : Inline (us ++ vs) :=
  fun braces => (first braces).append (second braces)

theorem Inline.flatMap {α : Type} {xs : List α} {f : α → List Char} (each : ∀ x ∈ xs, Inline (f x)) :
    Inline (xs.flatMap f) :=
  fun braces => .flatMap fun x mem => each x mem braces

theorem inline_blank : Inline " ".toList :=
  fun _ => rfl

theorem inline_equals : Inline " = ".toList :=
  fun _ => rfl

theorem inline_semicolon : Inline ";".toList :=
  fun _ => rfl

theorem step?_within {c : Char} (plain : c = ' ' ∨ isMark c = false) :
    step? (within braces) c = some (within braces) := by
  rcases plain with rfl | unmarked
  · rfl
  · have notEnd : c ≠ '\n' := by
      rintro rfl
      cases unmarked
    have stays : Place.step? { braces } c = some { braces } := by
      dsimp only [Place.step?]
      split
      all_goals first | rfl | cases unmarked
    rw [step?_inside_of_ne notEnd, stays]
    rfl

theorem inline_of_plain {text : List Char} (plain : ∀ c ∈ text, c = ' ' ∨ isMark c = false) : Inline text := by
  intro braces
  induction text with
  | nil => exact .nil _
  | cons c text ih =>
    obtain ⟨first, others⟩ := List.forall_mem_cons.mp plain
    exact Moves.cons_iff.mpr ⟨_, step?_within first, ih others⟩

/-- That a text can begin a line: it does not begin with a blank, the end of a line or a closing brace. -/
def Front (text : List Char) : Prop :=
  ∃ c rest, text = c :: rest ∧ c ≠ ' ' ∧ c ≠ '\n' ∧ c ≠ '\x7d'

theorem Front.append (front : Front us) (vs : List Char) : Front (us ++ vs) := by
  obtain ⟨c, rest, rfl, fit⟩ := front
  exact ⟨c, rest ++ vs, rfl, fit⟩

/-- A text that can begin a line does so behind the blanks for all open braces. -/
theorem Moves.of_front {text : List Char} {c : Cursor} (front : Front text) (moves : Moves (within braces) text c) :
    Moves (margin braces (4 * braces)) text c := by
  obtain ⟨ch, rest, rfl, notBlank, notEnd, notClosing⟩ := front
  obtain ⟨next, step, later⟩ := Moves.cons_iff.mp moves
  refine Moves.cons_iff.mpr ⟨next, ?_, later⟩
  have depth : lineDepth braces [ch] = braces := by
    unfold lineDepth
    rw [List.dropWhile_cons_of_neg (by simpa using notBlank)]
    split
    next isClosing => exact absurd (Option.some.inj isClosing) notClosing
    next => rfl
  rw [step?_margin_of_ne notEnd notBlank, depth, if_pos rfl, ← step, step?_inside_of_ne notEnd]

/-- That a text can begin a line or stand in one, and leaves nothing open. -/
structure IsFlat (text : List Char) : Prop where
  front : Front text
  inline : Inline text

theorem IsFlat.append (first : IsFlat us) (second : Inline vs) : IsFlat (us ++ vs) :=
  ⟨first.front.append vs, first.inline.append second⟩

theorem flat_of_isSolid {text : String} (solid : isSolid text) : IsFlat text.toList := by
  obtain ⟨nonempty, unmarked⟩ := Text.isSolid_iff.mp solid
  refine ⟨?_, inline_of_plain fun c mem => .inr (unmarked c mem)⟩
  obtain ⟨c, rest, same⟩ := List.exists_cons_of_ne_nil nonempty
  have first := unmarked c (by rw [same]; exact List.mem_cons_self)
  refine ⟨c, rest, same, ?_, ?_, ?_⟩
  all_goals
    rintro rfl
    cases first

theorem flat_of_isPath {name : String} (isPath : IsPath name) : IsFlat name.toList :=
  flat_of_isSolid (isSolid_of_isPath isPath)

/-! ## Literals -/

theorem moves_spells {quote c : Char} (spelled : Lexeme.Spells quote us c) :
    Moves (inside ⟨.literal quote, braces⟩) us (inside ⟨.literal quote, braces⟩) := by
  cases spelled with
  | plain inside unescaped sameLine =>
    refine Moves.cons_iff.mpr ⟨_, ?_, .nil _⟩
    rw [step?_inside_of_ne sameLine.1]
    dsimp only [Place.step?]
    split
    next => exact absurd rfl sameLine.1
    next => exact absurd rfl unescaped
    next =>
      rw [if_neg (by simpa using inside)]
      rfl
  | @escape c d meaning =>
    have notEnd : c ≠ '\n' := by
      rintro rfl
      cases meaning
    refine Moves.cons_iff.mpr ⟨inside ⟨.escape quote, braces⟩, rfl, Moves.cons_iff.mpr ⟨_, ?_, .nil _⟩⟩
    rw [step?_inside_of_ne notEnd]
    dsimp only [Place.step?]
    split
    next => exact absurd rfl notEnd
    next => rfl

theorem moves_spellsAll {quote : Char} {cs : List Char} (spelled : Lexeme.SpellsAll quote us cs) :
    Moves (inside ⟨.literal quote, braces⟩) us (inside ⟨.literal quote, braces⟩) := by
  induction spelled with
  | nil => exact .nil _
  | cons first _ ih => exact (moves_spells first).append ih

/-- A literal stands inside a line whatever its text is. -/
theorem flat_escape {quote : Char} (isQuote : quote = '\x27' ∨ quote = '\x22') (cs : List Char) :
    IsFlat (Text.escape quote cs) := by
  have meaning : Text.escapeMeaning? quote = some quote := by rcases isQuote with rfl | rfl <;> rfl
  have spelled := Text.spellsAll_escapedChars meaning cs
  refine ⟨⟨quote, _, rfl, ?_⟩, fun braces => ?_⟩
  · rcases isQuote with rfl | rfl <;> decide
  · have opens : Moves (within braces) [quote] (inside ⟨.literal quote, braces⟩) := by
      rcases isQuote with rfl | rfl <;> rfl
    have closes : Moves (inside ⟨.literal quote, braces⟩) [quote] (within braces) := by
      rcases isQuote with rfl | rfl <;> rfl
    exact (opens.append (moves_spellsAll spelled)).append closes

theorem isMark_of_isDigit {c : Char} (digit : c.isDigit) : isMark c = false :=
  isMark_of_isNamePart (by simp [isNamePart, digit])

theorem isSolid_of_isNumber {cs : List Char} (number : IsNumber cs) :
    isSolid (String.ofList cs) ∧ isSolid (String.ofList ('-' :: cs)) := by
  have solid : cs ≠ [] ∧ ∀ c ∈ cs, isMark c = false := by
    cases number with
    | @number whole fraction power isWhole isFraction isPower =>
      have digits : ∀ {ds}, IsDigits ds → ∀ c ∈ ds, isMark c = false :=
        fun isDigits c mem => isMark_of_isDigit (isDigits.2 c mem)
      refine ⟨by simp [isWhole.1], ?_⟩
      rw [List.forall_mem_append, List.forall_mem_append]
      refine ⟨⟨digits isWhole, ?_⟩, ?_⟩
      · rcases isFraction with rfl | ⟨ds, rfl, isDigits⟩
        · exact fun _ mem => nomatch mem
        · exact List.forall_mem_cons.mpr ⟨rfl, digits isDigits⟩
      · rcases isPower with rfl | ⟨sign, ds, rfl, rfl | rfl, isDigits⟩
        · exact fun _ mem => nomatch mem
        all_goals exact List.forall_mem_cons.mpr ⟨rfl, List.forall_mem_cons.mpr ⟨rfl, digits isDigits⟩⟩
  rw [Text.isSolid_iff, Text.isSolid_iff, String.toList_ofList, String.toList_ofList]
  exact ⟨solid, List.cons_ne_nil _ _, List.forall_mem_cons.mpr ⟨rfl, solid.2⟩⟩

theorem flat_signed {negative : Prop} [Decidable negative] {cs : List Char} (number : IsNumber cs) :
    IsFlat (if negative then '-' :: cs else cs) := by
  obtain ⟨plain, minus⟩ := isSolid_of_isNumber number
  split
  · simpa using flat_of_isSolid minus
  · simpa using flat_of_isSolid plain

theorem flat_literal {value : Value} {text : String} (written : literal value = .ok text) : IsFlat text.toList := by
  cases value with
  | nil =>
    cases written
    exact flat_of_isSolid (by decide)
  | bool b =>
    cases written
    cases b <;> exact flat_of_isSolid (by decide)
  | char c =>
    cases written
    rw [String.toList_ofList]
    exact flat_escape (.inl rfl) _
  | str s =>
    cases written
    rw [String.toList_ofList]
    exact flat_escape (.inr rfl) _
  | int n =>
    cases numeral : Numeral.write? n with
    | none =>
      delta literal at written
      dsimp only at written
      rw [numeral] at written
      cases written
    | some shown =>
      rw [literal_int numeral] at written
      cases written
      unfold Numeral.write? at numeral
      split at numeral
      next =>
        cases numeral
        rw [String.toList_ofList]
        exact flat_signed (isNumber_of_isDigits (isDigits_digits _))
      next => cases numeral
  | dec d =>
    obtain ⟨s, shown, -⟩ := d.exists_spelling
    cases written
    rw [Decimal.text, String.toList_ofList, ← shown]
    exact flat_signed (isNumber_body s)
  | range | list | object => cases written

/-! ## Expressions -/

theorem eq_some_of_settled {α : Type} {slot : Option α} {a : α} (found : settled slot = .ok a) : slot = some a := by
  cases slot with
  | none => cases found
  | some _ =>
    cases found
    rfl

theorem inline_operator {op : Operator} (sign : isSolid op.symbol) : Inline (operator op).toList := by
  unfold operator
  split
  next => exact (flat_of_isSolid (by decide)).inline
  next => exact (flat_of_isSolid (by decide)).inline
  next => exact (flat_of_isSolid sign).inline

theorem inline_intercalate {texts : List String} (each : ∀ text ∈ texts, Inline text.toList) :
    Inline (", ".intercalate texts).toList := by
  rw [String.toList_intercalate]
  cases texts with
  | nil => exact fun braces => .nil _
  | cons text texts =>
    obtain ⟨first, others⟩ := List.forall_mem_cons.mp each
    rw [List.map_cons, intercalate_eq, List.flatMap_map]
    have comma : Inline ", ".toList := fun _ => rfl
    exact first.append (.flatMap fun text mem => comma.append (others text mem))

/-- A call of something with arguments, up to the closing parenthesis. -/
theorem inline_arguments {texts : List String} (each : ∀ text ∈ texts, IsFlat text.toList) :
    Inline ("(".toList ++ ((", ".intercalate texts).toList ++ ")".toList)) := by
  have opens : Inline "(".toList := fun _ => rfl
  have closes : Inline ")".toList := fun _ => rfl
  exact opens.append ((inline_intercalate fun text mem => (each text mem).inline).append closes)

theorem flat_member {receiver : List Char} {name : String} (object : IsFlat receiver) (isPath : IsPath name) :
    IsFlat (receiver ++ (".".toList ++ name.toList)) := by
  have point : Inline ".".toList := fun _ => rfl
  exact object.append (point.append (flat_of_isPath isPath).inline)

mutual
theorem flat_expr (e : Expr) (solid : e.Solid) {text : String} (written : expr e = .ok text) : IsFlat text.toList := by
  cases solid with
  | literal => exact flat_literal written
  | @group inner offset type inside =>
    rw [expr] at written
    obtain ⟨x, isInner, same⟩ := Except.bind_eq_ok_iff.mp written
    cases same
    have opens : IsFlat "(".toList := flat_of_isSolid (by decide)
    have closes : Inline ")".toList := fun _ => rfl
    simp only [String.toList_append]
    exact (opens.append (flat_expr inner inside isInner).inline).append closes
  | @binary op left right offset type sign first second =>
    rw [expr] at written
    obtain ⟨l, isLeft, written⟩ := Except.bind_eq_ok_iff.mp written
    obtain ⟨r, isRight, same⟩ := Except.bind_eq_ok_iff.mp written
    cases same
    simp only [String.toList_append]
    have operated := ((flat_expr left first isLeft).append inline_blank).append (inline_operator sign)
    exact (operated.append inline_blank).append (flat_expr right second isRight).inline
  | ref settled =>
    rw [expr] at written
    obtain ⟨v, found, same⟩ := Except.bind_eq_ok_iff.mp written
    cases same
    exact flat_of_isPath (settled v (eq_some_of_settled found)).javaName
  | @field receiver name offset binding type object settled =>
    rw [expr] at written
    obtain ⟨r, isReceiver, written⟩ := Except.bind_eq_ok_iff.mp written
    obtain ⟨v, found, same⟩ := Except.bind_eq_ok_iff.mp written
    cases same
    simp only [String.toList_append, List.append_assoc]
    exact flat_member (flat_expr receiver object isReceiver) (settled v (eq_some_of_settled found)).javaName
  | @call name args offset callee type given settled =>
    rw [expr] at written
    obtain ⟨f, found, written⟩ := Except.bind_eq_ok_iff.mp written
    obtain ⟨xs, areArgs, same⟩ := Except.bind_eq_ok_iff.mp written
    cases same
    simp only [String.toList_append, List.append_assoc]
    refine (flat_of_isPath (settled f (eq_some_of_settled found)).javaName).append ?_
    exact inline_arguments (flat_exprs args given areArgs)
  | @send receiver name args offset callee type object given settled =>
    rw [expr] at written
    obtain ⟨r, isReceiver, written⟩ := Except.bind_eq_ok_iff.mp written
    obtain ⟨f, found, written⟩ := Except.bind_eq_ok_iff.mp written
    obtain ⟨xs, areArgs, same⟩ := Except.bind_eq_ok_iff.mp written
    cases same
    have member := flat_member (flat_expr receiver object isReceiver) (settled f (eq_some_of_settled found)).javaName
    have whole := member.append (inline_arguments (flat_exprs args given areArgs))
    simpa only [String.toList_append, List.append_assoc] using whole
  | unknown => cases written

theorem flat_exprs (es : List Expr) (solid : ∀ e ∈ es, e.Solid) {texts : List String} (written : exprs es = .ok texts) :
    ∀ text ∈ texts, IsFlat text.toList := by
  cases es with
  | nil =>
    cases written
    exact fun _ mem => nomatch mem
  | cons e es =>
    obtain ⟨first, others⟩ := List.forall_mem_cons.mp solid
    rw [exprs] at written
    obtain ⟨x, isFirst, written⟩ := Except.bind_eq_ok_iff.mp written
    obtain ⟨xs, areOthers, same⟩ := Except.bind_eq_ok_iff.mp written
    cases same
    exact List.forall_mem_cons.mpr ⟨flat_expr e first isFirst, flat_exprs es others areOthers⟩
end

/-! ## Statements -/

/-- That a text can begin a line inside so many braces, and leaves the same braces open. -/
structure Stands (depth : Nat) (text : List Char) : Prop where
  front : Front text
  moves : Moves (within depth) text (within depth)

theorem IsFlat.stands {text : List Char} (flat : IsFlat text) (depth : Nat) : Stands depth text :=
  ⟨flat.front, flat.inline depth⟩

theorem toList_newline (depth : Nat) : (newline depth).toList = '\n' :: List.replicate (4 * depth) ' ' := by
  simp only [newline, String.toList_append, String.toList_ofList]
  rfl

theorem moves_blanks (braces column count : Nat) :
    Moves (margin braces column) (List.replicate count ' ') (margin braces (column + count)) := by
  induction count generalizing column with
  | zero => exact .nil _
  | succ count ih =>
    rw [List.replicate_succ, Nat.add_comm count 1, ← Nat.add_assoc]
    exact Moves.cons_iff.mpr ⟨margin braces (column + 1), rfl, ih (column + 1)⟩

/-- The end of a line leads to the margin of the next. -/
theorem moves_newline (braces depth : Nat) :
    Moves (within braces) (newline depth).toList (margin braces (4 * depth)) := by
  rw [toList_newline]
  refine Moves.cons_iff.mpr ⟨margin braces 0, rfl, ?_⟩
  simpa using moves_blanks braces 0 (4 * depth)

/-- The end of an empty line leads to the margin of the next. -/
theorem moves_emptyLine (braces depth : Nat) :
    Moves (margin braces 0) (newline depth).toList (margin braces (4 * depth)) := by
  rw [toList_newline]
  refine Moves.cons_iff.mpr ⟨margin braces 0, rfl, ?_⟩
  simpa using moves_blanks braces 0 (4 * depth)

/-- A closing brace on a line of its own, which is one level less indented than the lines before it. -/
theorem moves_closing (depth : Nat) : Moves (margin (depth + 1) (4 * depth)) "\x7d".toList (within depth) := by
  refine Moves.cons_iff.mpr ⟨within depth, ?_, .nil _⟩
  rw [step?_margin_of_ne (by decide) (by decide)]
  exact if_pos rfl

/-- A statement on a line of its own. -/
theorem Stands.line {text : List Char} (stands : Stands depth text) :
    Moves (within depth) ((newline depth).toList ++ text) (within depth) :=
  (moves_newline depth depth).append (.of_front stands.front stands.moves)

theorem flat_declaration {binding : Option Variable} {initializer : Option Expr} (settled : ∀ v ∈ binding, v.Solid)
    (inside : ∀ e ∈ initializer, e.Solid) {text : String} (written : declaration binding initializer = .ok text) :
    IsFlat text.toList := by
  obtain ⟨v, found, written⟩ := Except.bind_eq_ok_iff.mp written
  have solid := settled v (eq_some_of_settled found)
  have head : IsFlat (v.type.javaName ++ " " ++ v.javaName).toList := by
    simp only [String.toList_append]
    exact ((flat_of_isSolid solid.type).append inline_blank).append (flat_of_isPath solid.javaName).inline
  cases initializer with
  | none =>
    cases written
    rw [String.toList_append]
    exact head.append inline_semicolon
  | some e =>
    obtain ⟨x, isValue, same⟩ := Except.bind_eq_ok_iff.mp written
    cases same
    have value := (flat_expr e (inside e rfl) isValue).inline
    rw [String.toList_append, String.toList_append, String.toList_append]
    exact ((head.append inline_equals).append value).append inline_semicolon

/-- Something with braces behind it: a head, what stands in parentheses, and the inside of the braces. -/
theorem stands_braced {head inner body : List Char} (starts : IsFlat head) (stays : Inline inner)
    (closes : Moves (within (depth + 1)) (body ++ "\x7d".toList) (within depth)) :
    Stands depth (head ++ inner ++ ") \x7b".toList ++ body ++ "\x7d".toList) := by
  have opens : Moves (within depth) ") \x7b".toList (within (depth + 1)) := rfl
  rw [List.append_assoc]
  refine ⟨((starts.front.append _).append _).append _, Moves.append ?_ closes⟩
  exact ((starts.inline.append stays) depth).append opens

mutual
theorem stands_stmt (depth : Nat) (s : Stmt) (solid : s.Solid) {text : String} (written : stmt depth s = .ok text) :
    Stands depth text.toList := by
  cases solid with
  | @expression e offset inside =>
    rw [stmt] at written
    obtain ⟨x, isExpr, same⟩ := Except.bind_eq_ok_iff.mp written
    cases same
    rw [String.toList_append]
    exact ((flat_expr e inside isExpr).append inline_semicolon).stands depth
  | declaration named inside settled =>
    rw [stmt] at written
    exact (flat_declaration settled inside written).stands depth
  | @assignment target value offset first second =>
    rw [stmt] at written
    obtain ⟨t, isTarget, written⟩ := Except.bind_eq_ok_iff.mp written
    obtain ⟨x, isValue, same⟩ := Except.bind_eq_ok_iff.mp written
    cases same
    have both := ((flat_expr target first isTarget).append inline_equals).append (flat_expr value second isValue).inline
    simp only [String.toList_append]
    exact (both.append inline_semicolon).stands depth
  | @conditional c thenPart elsePart offset tested first second =>
    rw [stmt] at written
    obtain ⟨x, isCondition, written⟩ := Except.bind_eq_ok_iff.mp written
    obtain ⟨y, isThen, written⟩ := Except.bind_eq_ok_iff.mp written
    have starts : IsFlat "if (".toList := ⟨⟨'i', _, rfl, by decide⟩, fun _ => rfl⟩
    have head : Stands depth ("if (" ++ x ++ ") \x7b" ++ y ++ "\x7d").toList := by
      simp only [String.toList_append]
      exact stands_braced starts (flat_expr c tested isCondition).inline (moves_block depth thenPart first isThen)
    split at written
    next =>
      cases written
      exact head
    next =>
      obtain ⟨z, isElse, same⟩ := Except.bind_eq_ok_iff.mp written
      cases same
      have opens : Moves (within depth) " else \x7b".toList (within (depth + 1)) := rfl
      have inElse := moves_block depth elsePart second isElse
      rw [String.toList_append, String.toList_append, String.toList_append, List.append_assoc, List.append_assoc]
      exact ⟨head.front.append _, head.moves.append (opens.append inElse)⟩
  | @forEach name iterable body offset named iterated inside =>
    rw [stmt] at written
    obtain ⟨x, isIterable, written⟩ := Except.bind_eq_ok_iff.mp written
    obtain ⟨y, isBody, same⟩ := Except.bind_eq_ok_iff.mp written
    cases same
    have starts : IsFlat "for (int ".toList := ⟨⟨'f', _, rfl, by decide⟩, fun _ => rfl⟩
    have colon : Inline " : ".toList := fun _ => rfl
    have head := (starts.append (flat_of_isPath (isPath_of_isName named)).inline).append colon
    simp only [String.toList_append]
    exact stands_braced head (flat_expr iterable iterated isIterable).inline (moves_block depth body inside isBody)
  | @whileLoop c body offset tested inside =>
    rw [stmt] at written
    obtain ⟨x, isCondition, written⟩ := Except.bind_eq_ok_iff.mp written
    obtain ⟨y, isBody, same⟩ := Except.bind_eq_ok_iff.mp written
    cases same
    have starts : IsFlat "while (".toList := ⟨⟨'w', _, rfl, by decide⟩, fun _ => rfl⟩
    simp only [String.toList_append]
    exact stands_braced starts (flat_expr c tested isCondition).inline (moves_block depth body inside isBody)
  | @ret value offset inside =>
    rw [stmt] at written
    obtain ⟨x, isValue, same⟩ := Except.bind_eq_ok_iff.mp written
    cases same
    have starts : IsFlat "return ".toList := ⟨⟨'r', _, rfl, by decide⟩, fun _ => rfl⟩
    simp only [String.toList_append]
    exact ((starts.append (flat_expr value inside isValue).inline).append inline_semicolon).stands depth
  | unknown => cases written

/-- The inside of a block and its closing brace. -/
theorem moves_block (depth : Nat) (ss : List Stmt) (solid : ∀ s ∈ ss, s.Solid) {text : String}
    (written : block depth ss = .ok text) :
    Moves (within (depth + 1)) (text.toList ++ "\x7d".toList) (within depth) := by
  cases ss with
  | nil =>
    rw [block] at written
    cases written
    exact rfl
  | cons s ss =>
    obtain ⟨first, others⟩ := List.forall_mem_cons.mp solid
    rw [block] at written
    obtain ⟨x, isFirst, written⟩ := Except.bind_eq_ok_iff.mp written
    obtain ⟨y, areOthers, same⟩ := Except.bind_eq_ok_iff.mp written
    cases same
    simp only [String.toList_append]
    have lines := (stands_stmt (depth + 1) s first isFirst).line.append (moves_lines (depth + 1) ss others areOthers)
    exact (lines.append (moves_newline (depth + 1) depth)).append (moves_closing depth)

theorem moves_lines (depth : Nat) (ss : List Stmt) (solid : ∀ s ∈ ss, s.Solid) {text : String}
    (written : lines depth ss = .ok text) : Moves (within depth) text.toList (within depth) := by
  cases ss with
  | nil =>
    rw [lines] at written
    cases written
    exact .nil _
  | cons s ss =>
    obtain ⟨first, others⟩ := List.forall_mem_cons.mp solid
    rw [lines] at written
    obtain ⟨x, isFirst, written⟩ := Except.bind_eq_ok_iff.mp written
    obtain ⟨y, areOthers, same⟩ := Except.bind_eq_ok_iff.mp written
    cases same
    simp only [String.toList_append]
    exact (stands_stmt depth s first isFirst).line.append (moves_lines depth ss others areOthers)
end

/-! ## Programs -/

theorem inline_params {types : List Ty} {params : List Param} (accepts : ∀ t ∈ types, t.Solid)
    (named : ∀ p ∈ params, isName p.name.toList) :
    Inline (", ".intercalate ((types.zip params).map fun (type, p) => type.javaName ++ " " ++ p.name)).toList := by
  refine inline_intercalate fun text mem => ?_
  obtain ⟨⟨type, p⟩, inside, rfl⟩ := List.mem_map.mp mem
  obtain ⟨isType, isParam⟩ := List.of_mem_zip inside
  simp only [String.toList_append]
  have typed := (flat_of_isSolid (accepts type isType)).append inline_blank
  exact (typed.append (flat_of_isPath (isPath_of_isName (named p isParam))).inline).inline

theorem stands_method {m : Method} (solid : m.Solid) {text : String} (written : method depth m = .ok text) :
    Stands depth text.toList := by
  obtain ⟨f, found, written⟩ := Except.bind_eq_ok_iff.mp written
  obtain ⟨body, isBody, same⟩ := Except.bind_eq_ok_iff.mp written
  cases same
  have callee := solid.settled f (eq_some_of_settled found)
  have opens : Inline "(".toList := fun _ => rfl
  have typed := (flat_of_isSolid callee.result).append inline_blank
  have head := (typed.append (flat_of_isPath callee.javaName).inline).append opens
  simp only [String.toList_append]
  exact stands_braced head (inline_params callee.params solid.params) (moves_block depth m.body solid.body isBody)

/-- Fields on lines of their own, below an empty line and above another. -/
theorem moves_fields {fs : List Field} (solid : ∀ f ∈ fs, f.Solid) {text : String} (written : fields fs = .ok text) :
    Moves (margin 1 0) text.toList (margin 1 0) := by
  unfold fields at written
  split at written
  next =>
    cases written
    exact .nil _
  next nonempty =>
    obtain ⟨texts, areFields, same⟩ := Except.bind_eq_ok_iff.mp written
    cases same
    have each : ∀ text ∈ texts, Stands 1 text.toList := by
      intro text mem
      obtain ⟨f, inside, isField⟩ := Except.exists_of_mem_of_mapM_eq_ok areFields text mem
      exact (flat_declaration (solid f inside).settled (solid f inside).initializer isField).stands 1
    rw [String.toList_append, String.toList_join, List.flatMap_map]
    simp only [String.toList_append]
    -- The first field stands below an empty line, and each other one below a field.
    cases texts with
    | nil => exact moves_emptyLine 1 0
    | cons text texts =>
      obtain ⟨first, others⟩ := List.forall_mem_cons.mp each
      have line := (moves_emptyLine 1 1).append (.of_front first.front first.moves)
      exact (line.append (.flatMap fun text mem => (others text mem).line)).append (moves_newline 1 0)

/-- Methods with an empty line below each. -/
theorem moves_methods {ms : List Method} (solid : ∀ m ∈ ms, m.Solid) {texts : List String}
    (written : ms.mapM (method 1) = .ok texts) :
    Moves (margin 1 0) (String.join (texts.map fun text => newline 1 ++ text ++ newline 0)).toList (margin 1 0) := by
  rw [String.toList_join, List.flatMap_map]
  refine .flatMap fun text mem => ?_
  obtain ⟨m, inside, isMethod⟩ := Except.exists_of_mem_of_mapM_eq_ok written text mem
  have stands := stands_method (solid m inside) isMethod
  simp only [String.toList_append]
  exact ((moves_emptyLine 1 1).append (.of_front stands.front stands.moves)).append (moves_newline 1 0)

theorem moves_entryPoint : Moves (margin 1 0) entryPoint.toList (margin 1 0) := by
  have front : Front "public static void main(String[] args) \x7b".toList := ⟨'p', _, rfl, by decide⟩
  have opens : Moves (within 1) "public static void main(String[] args) \x7b".toList (within 2) := rfl
  have body : Stands 2 "System.exit(new Main().main());".toList := ⟨⟨'S', _, rfl, by decide⟩, rfl⟩
  have head := (moves_emptyLine 1 1).append (.of_front front opens)
  simp only [entryPoint, String.toList_append]
  have lines := (head.append (moves_newline 2 2)).append (.of_front body.front body.moves)
  exact ((lines.append (moves_newline 2 1)).append (moves_closing 1)).append (moves_newline 1 0)

/-- A program of solid names is laid out. -/
theorem laidOut_source {s : Source} (solid : s.Solid) {text : String} (written : source s = .ok text) :
    LaidOut text.toList := by
  obtain ⟨fieldText, areFields, written⟩ := Except.bind_eq_ok_iff.mp written
  obtain ⟨methodTexts, areMethods, same⟩ := Except.bind_eq_ok_iff.mp written
  cases same
  have starts : Moves (margin 0 0) "public class Main \x7b".toList (within 1) := rfl
  have withFields := (starts.append (moves_newline 1 0)).append (moves_fields solid.fields areFields)
  have withMethods := (withFields.append moves_entryPoint).append (moves_methods solid.methods areMethods)
  have whole := (withMethods.append (moves_emptyLine 1 0)).append (moves_closing 0)
  apply LaidOut.of_moves
  simpa only [String.toList_append] using whole

end Java

/-! ## Programs that were read and checked -/

open CommandLine (rootWorld)

/-- A program that was read from a text and passes the check is printed, and what is printed is laid out: its braces are
nested, no literal goes on over the end of a line, and each line is indented by the braces that are open where it
begins. -/
theorem printed_source_is_laid_out {text : List Char} {s : Source} {needsMain : Bool} (read : parseText text = .ok s)
    (passed : (checkSource {} needsMain rootWorld.1.space rootWorld.2 s).result = .ok ()) :
    ∃ java, Java.source (checkSource {} needsMain rootWorld.1.space rootWorld.2 s).tree = .ok java ∧
      Java.LaidOut java.toList := by
  obtain ⟨java, written⟩ := Java.exists_source_eq_ok_iff.mpr (Check.settled_checkSource passed).writable
  exact ⟨java, written, Java.laidOut_source (Check.solid_of_parseText read needsMain) written⟩

/-- A text with a string that has braces and the end of a line in it, inside two blocks, and with an empty block. -/
def branchingText : String :=
  "DEF f() DO IF TRUE DO print(\x22\x7d\\n\x7b\x22); ELSE WHILE FALSE DO END END END"

/-- The program of that text. -/
def branching : Source where
  fields := []
  methods := [{
    name := "f", params := [], resultTypeName := none, offset := 0
    body := [.conditional (.literal (.bool true) 14)
      [.expression (.call "print" [.literal (.str "\x7d\n\x7b") 28] 22) 22]
      [.whileLoop (.literal (.bool false) 48) [] 42] 11] }]

theorem parseText_branchingText : parseText branchingText.toList = .ok branching := by
  have lexed : lex branchingText.toList = .ok [⟨.operator, "DEF", 0⟩, ⟨.identifier, "f", 4⟩, ⟨.operator, "(", 5⟩,
      ⟨.operator, ")", 6⟩, ⟨.operator, "DO", 8⟩, ⟨.operator, "IF", 11⟩, ⟨.operator, "TRUE", 14⟩, ⟨.operator, "DO", 19⟩,
      ⟨.identifier, "print", 22⟩, ⟨.operator, "(", 27⟩, ⟨.string, "\x22\x7d\\n\x7b\x22", 28⟩, ⟨.operator, ")", 34⟩,
      ⟨.operator, ";", 35⟩, ⟨.operator, "ELSE", 37⟩, ⟨.operator, "WHILE", 42⟩, ⟨.operator, "FALSE", 48⟩,
      ⟨.operator, "DO", 54⟩, ⟨.operator, "END", 57⟩, ⟨.operator, "END", 61⟩, ⟨.operator, "END", 65⟩] := by
    decide +kernel
  rw [parseText, lexed]
  cbv

theorem branching_passes : (checkSource {} false rootWorld.1.space rootWorld.2 branching).result = .ok () := by
  decide +kernel

/-- What is printed for that program. -/
def branchingJava : String :=
  "public class Main \x7b\n\n" ++
  "    public static void main(String[] args) \x7b\n" ++
  "        System.exit(new Main().main());\n" ++
  "    \x7d\n\n" ++
  "    Void f() \x7b\n" ++
  "        if (true) \x7b\n" ++
  "            System.out.println(\x22\x7d\\n\x7b\x22);\n" ++
  "        \x7d else \x7b\n" ++
  "            while (false) \x7b\x7d\n" ++
  "        \x7d\n" ++
  "    \x7d\n\n" ++
  "\x7d"

/-- The braces in the string do not count, a line that closes and opens a brace is indented as one that closes, and an
empty block stands on one line. -/
theorem branching_is_laid_out :
    parseText branchingText.toList = .ok branching ∧
      (checkSource {} false rootWorld.1.space rootWorld.2 branching).result = .ok () ∧
      Java.source (checkSource {} false rootWorld.1.space rootWorld.2 branching).tree = .ok branchingJava ∧
      Java.LaidOut branchingJava.toList := by
  have printed :
      Java.source (checkSource {} false rootWorld.1.space rootWorld.2 branching).tree = .ok branchingJava := by
    decide +kernel
  obtain ⟨java, written, laidOut⟩ := printed_source_is_laid_out parseText_branchingText branching_passes
  cases printed.symm.trans written
  exact ⟨parseText_branchingText, branching_passes, printed, laidOut⟩

end Primer
