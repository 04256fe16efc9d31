import Primer.Proofs.Token.Literals

/-!
# What is found at the front of a text

Every shape of a lexeme has a measure, and the shapes are tried one after the other. What a shape is was said
apart from its measure (`Shape.Fits`); here the two are brought together.

**The law** (`Shape.measures`): the measure of a shape finds the longest stretch of that shape at the front of a
text, and it finds one if there is any. So where nothing is found nothing of any shape begins
(`front?_eq_none_iff`), and what is found does not depend on the text behind it (`front?_of_append`).
-/

namespace Primer

namespace Lexeme

/-! ## Measures -/

/-- That a measure finds the longest stretch of a sort at the front of a text, and finds one if there is
any. -/
structure Measures (length? : List Char → Option Nat) (IsSort : List Char → Prop) : Prop where
  found : ∀ cs n, length? cs = some n → n ≤ cs.length ∧ IsSort (cs.take n)
  longest : ∀ front rest, IsSort front → ∃ n, length? (front ++ rest) = some n ∧ front.length ≤ n

namespace Measures

variable {length? : List Char → Option Nat} {IsSort IsSort' : List Char → Prop} {cs rest : List Char} {n : Nat}

theorem congr (measures : Measures length? IsSort) (same : ∀ cs, IsSort cs ↔ IsSort' cs) :
    Measures length? IsSort' where
  found cs n found := (measures.found cs n found).imp_right (same _).mp
  longest front rest isSort := measures.longest front rest ((same _).mpr isSort)

/-- A measure that is exact finds the longest, since it finds no other. -/
theorem of_exact (found : ∀ cs n, length? cs = some n → n ≤ cs.length ∧ IsSort (cs.take n))
    (exact : ∀ front rest, IsSort front → length? (front ++ rest) = some front.length) :
    Measures length? IsSort where
  found := found
  longest front rest isSort := ⟨front.length, exact front rest isSort, Nat.le_refl _⟩

theorem exists_of_append (measures : Measures length? IsSort) (found : length? cs = some n) (rest : List Char) :
    ∃ m, length? (cs ++ rest) = some m ∧ n ≤ m := by
  obtain ⟨inside, isSort⟩ := measures.found cs n found
  obtain ⟨m, foundMore, le⟩ := measures.longest (cs.take n) (cs.drop n ++ rest) isSort
  rw [← List.append_assoc, List.take_append_drop] at foundMore
  rw [List.length_take, Nat.min_eq_left inside] at le
  exact ⟨m, foundMore, le⟩

/-- What is found in front of more text is found without it. -/
theorem of_append (measures : Measures length? IsSort) (found : length? (cs ++ rest) = some n)
    (inside : n ≤ cs.length) : length? cs = some n := by
  have isSort := (measures.found _ n found).2
  rw [List.take_append_of_le_length inside] at isSort
  obtain ⟨m, foundHere, le⟩ := measures.longest (cs.take n) (cs.drop n) isSort
  rw [List.take_append_drop] at foundHere
  rw [List.length_take, Nat.min_eq_left inside] at le
  obtain ⟨k, foundThere, le'⟩ := measures.exists_of_append foundHere rest
  rw [found] at foundThere
  cases foundThere
  rw [foundHere, Nat.le_antisymm le' le]

/-- Where nothing is found in front of more text, nothing is found without it. -/
theorem eq_none_of_append (measures : Measures length? IsSort) (nothing : length? (cs ++ rest) = none) :
    length? cs = none := by
  cases found : length? cs with
  | none => rfl
  | some n =>
    obtain ⟨m, foundMore, -⟩ := measures.exists_of_append found rest
    rw [nothing] at foundMore
    cases foundMore

/-- A stretch of the sort that cannot go on is what is found. -/
theorem eq_length (measures : Measures length? IsSort) {front : List Char} (isSort : IsSort front)
    (ends : ∀ more, more <+: rest → IsSort (front ++ more) → more = []) :
    length? (front ++ rest) = some front.length := by
  obtain ⟨n, found, le⟩ := measures.longest front rest isSort
  obtain ⟨inside, isSort'⟩ := measures.found _ n found
  rw [List.take_append, List.take_of_length_le le] at isSort'
  have none := ends _ (List.take_prefix _ _) isSort'
  rw [List.length_append] at inside
  have short : (rest.take (n - front.length)).length = 0 := by rw [none, List.length_nil]
  rw [List.length_take] at short
  have same : n = front.length := by omega
  rw [found, same]

end Measures

/-! ## Runs of characters -/

theorem length_takeWhile_le (sort : Char → Bool) (cs : List Char) : (cs.takeWhile sort).length ≤ cs.length :=
  (List.takeWhile_prefix sort).length_le

theorem length_le_takeWhile_append {sort : Char → Bool} {cs : List Char} (all : ∀ c ∈ cs, sort c)
    (rest : List Char) : cs.length ≤ ((cs ++ rest).takeWhile sort).length := by
  rw [List.takeWhile_append_of_pos all, List.length_append]
  exact Nat.le_add_right _ _

theorem measures_runLength? (first part : Char → Bool) :
    Measures (runLength? first part) fun cs => ∃ c ds, cs = c :: ds ∧ first c ∧ ∀ d ∈ ds, part d where
  found cs n found := by
    refine ⟨?_, of_runLength? found⟩
    cases cs with
    | nil => cases found
    | cons c cs =>
      simp only [runLength?] at found
      split at found
      next =>
        cases found
        have inside := length_takeWhile_le part cs
        simp only [List.length_cons]
        omega
      next => cases found
  longest := by
    rintro _ rest ⟨c, ds, rfl, begins, others⟩
    have long := length_le_takeWhile_append others rest
    refine ⟨1 + ((ds ++ rest).takeWhile part).length, if_pos begins, ?_⟩
    rw [List.length_cons]
    omega

/-! ## Numbers -/

theorem measures_wholeLength? : Measures wholeLength? IsWhole where
  found cs n found := by
    refine ⟨?_, isWhole_of_wholeLength? found⟩
    cases cs with
    | nil => cases found
    | cons c cs =>
      have inside := length_takeWhile_le Char.isDigit cs
      simp only [wholeLength?] at found
      split at found
      next =>
        cases found
        exact Nat.succ_le_succ (Nat.zero_le _)
      next =>
        split at found
        next =>
          cases found
          simp only [List.length_cons]
          omega
        next => cases found
  longest := by
    intro front rest whole
    cases whole with
    | zero => exact ⟨1, rfl, Nat.le_refl _⟩
    | @digits c ds first nonzero others =>
      have long := length_le_takeWhile_append others rest
      refine ⟨1 + ((ds ++ rest).takeWhile Char.isDigit).length, ?_, ?_⟩
      · rw [List.cons_append, wholeLength?, if_neg (by simpa using nonzero), if_pos first]
      · rw [List.length_cons]
        omega

/-- Digits have no sign. -/
theorem integerLength?_of_isDigit {c : Char} {cs : List Char} (digit : c.isDigit) :
    integerLength? (c :: cs) = wholeLength? (c :: cs) := by
  unfold integerLength?
  split
  next same =>
    cases same
    exact absurd digit (by decide)
  next => rfl

theorem integerLength?_append_of_isWhole {ws : List Char} (whole : IsWhole ws) (rest : List Char) :
    integerLength? (ws ++ rest) = wholeLength? (ws ++ rest) := by
  obtain ⟨c, cs, rfl⟩ := List.exists_cons_of_ne_nil whole.ne_nil
  exact integerLength?_of_isDigit (whole.forall_isDigit c List.mem_cons_self)

theorem measures_integerLength? : Measures integerLength? fun cs => ∃ v, IntegerOf cs v where
  found cs n found := by
    refine ⟨?_, integerOf_of_integerLength? found⟩
    unfold integerLength? at found
    split at found
    next rest =>
      obtain ⟨m, measured, rfl⟩ := Option.map_eq_some_iff.mp found
      have inside := (measures_wholeLength?.found rest m measured).1
      rw [List.length_cons]
      omega
    next => exact (measures_wholeLength?.found cs n found).1
  longest := by
    rintro front rest ⟨v, shape⟩
    cases shape with
    | plain whole =>
      rw [integerLength?_append_of_isWhole whole]
      exact measures_wholeLength?.longest front rest whole
    | @minus ds whole =>
      obtain ⟨n, measured, long⟩ := measures_wholeLength?.longest ds rest whole
      refine ⟨1 + n, ?_, ?_⟩
      · rw [List.cons_append, integerLength?, measured, Option.map_some]
      · rw [List.length_cons]
        omega

/-- An integer goes on with a digit or not at all. -/
theorem IntegerOf.isDigit_of_append {cs more : List Char} {v w : Int} {c : Char} (shape : IntegerOf cs v)
    (longer : IntegerOf (cs ++ c :: more) w) : c.isDigit := by
  have digit : ∀ {ds : List Char}, IsWhole (ds ++ c :: more) → c.isDigit :=
    fun whole => whole.forall_isDigit c (by simp)
  cases shape with
  | plain whole =>
    generalize isText : cs ++ c :: more = text at longer
    cases longer with
    | plain whole' =>
      subst isText
      exact digit whole'
    | minus whole' =>
      obtain ⟨d, ds, rfl⟩ := List.exists_cons_of_ne_nil whole.ne_nil
      cases isText
      exact absurd (whole.forall_isDigit _ List.mem_cons_self) (by decide)
  | @minus ds whole =>
    cases longer with
    | plain whole' => exact @digit ('-' :: ds) whole'
    | minus whole' => exact digit whole'

theorem integerLength?_append_point {ws : List Char} {v : Int} (shape : IntegerOf ws v) (rest : List Char) :
    integerLength? (ws ++ '.' :: rest) = some ws.length := by
  refine measures_integerLength?.eq_length ⟨v, shape⟩ ?_
  rintro more fore ⟨w, longer⟩
  cases more with
  | nil => rfl
  | cons c more =>
    obtain ⟨rfl, -⟩ := List.cons_prefix_cons.mp fore
    exact absurd (shape.isDigit_of_append longer) (by decide)

theorem measures_decimalLength? : Measures decimalLength? fun cs => ∃ d, DecimalOf cs d where
  found cs n found := by
    refine ⟨?_, decimalOf_of_decimalLength? found⟩
    obtain ⟨m, integer, found⟩ := Option.bind_eq_some_iff.mp found
    obtain ⟨k, measured, rfl⟩ := Option.map_eq_some_iff.mp found
    have inside := (measures_integerLength?.found cs m integer).1
    suffices fits : k ≤ (cs.drop m).length by
      rw [List.length_drop] at fits
      omega
    unfold fractionLength? at measured
    split at measured
    next rest isRest =>
      dsimp only at measured
      split at measured
      next => cases measured
      next =>
        cases measured
        have short := length_takeWhile_le Char.isDigit rest
        rw [isRest, List.length_cons]
        omega
    next => cases measured
  longest := by
    -- The integer in front of the point is found whole, whatever comes after the point.
    have unsigned : ∀ {ws ds : List Char} {v : Int} (rest : List Char), IntegerOf ws v → IsFraction ds →
        ∃ n, decimalLength? (ws ++ '.' :: ds ++ rest) = some n ∧ (ws ++ '.' :: ds).length ≤ n := by
      intro ws ds v rest shape fraction
      have long := length_le_takeWhile_append fraction.2 rest
      have more : ((ds ++ rest).takeWhile Char.isDigit).isEmpty = false := by
        have positive := List.length_pos_iff.mpr fraction.1
        rw [Bool.eq_false_iff, ne_eq, List.isEmpty_iff_length_eq_zero]
        omega
      refine ⟨ws.length + (1 + ((ds ++ rest).takeWhile Char.isDigit).length), ?_, ?_⟩
      · rw [List.append_assoc, List.cons_append, decimalLength?, integerLength?_append_point shape,
          Option.bind_some, List.drop_left, fractionLength?]
        simp only [more, Bool.false_eq_true, if_false, Option.map_some]
      · rw [List.length_append, List.length_cons]
        omega
    rintro front rest ⟨d, shape⟩
    cases shape with
    | plain whole fraction => exact unsigned rest (.plain whole) fraction
    | minus whole fraction => exact unsigned rest (.minus whole) fraction

/-! ## Quoted text -/

theorem innerLength?_append {quote : Char} {us : List Char} {c : Char} (spelled : Spells quote us c)
    (rest : List Char) : innerLength? quote (us ++ rest) = some us.length := by
  cases spelled with
  | plain inside unescaped sameLine =>
    rw [List.singleton_append, innerLength?]
    · rw [if_neg (by simp [inside, sameLine])]
      rfl
    · exact unescaped
  | escape meaning => simp [innerLength?, meaning]

theorem characterLength?_append {us : List Char} {c : Char} (inside : Spells '\x27' us c) (rest : List Char) :
    characterLength? (us ++ '\x27' :: rest) = some (us.length + 1) := by
  simp [characterLength?, innerLength?_append inside]

theorem stringLength?_append {us cs : List Char} (inside : SpellsAll '\x22' us cs) (rest : List Char) :
    stringLength? (us ++ '\x22' :: rest) = some (us.length + 1) := by
  induction inside with
  | nil => rfl
  | @cons us vs c cs first _ ih =>
    cases first with
    | plain inside unescaped sameLine =>
      rw [List.singleton_append, List.cons_append, stringLength?]
      · rw [if_neg (by simp [unescaped, sameLine]), ih, Option.map_some, List.length_cons, Nat.add_comm]
      · exact fun same => inside same
      · exact fun d ds same => absurd same unescaped
    | escape meaning =>
      rw [List.cons_append, List.singleton_append, List.cons_append, List.cons_append, stringLength?,
        if_pos (by rw [meaning]; rfl), ih, Option.map_some, List.length_cons, List.length_cons]
      congr 1
      omega

theorem length_le_of_characterLength? {cs : List Char} {n : Nat} (found : characterLength? cs = some n) :
    n ≤ cs.length := by
  unfold characterLength? at found
  split at found
  next => cases found
  next m measured =>
    split at found
    next closed =>
      cases found
      obtain ⟨rest, more⟩ := List.head?_eq_some_iff.mp (eq_of_beq closed)
      have left : (cs.drop m).length = rest.length + 1 := by rw [more, List.length_cons]
      rw [List.length_drop] at left
      omega
    next => cases found

theorem length_le_of_stringLength? {cs : List Char} {n : Nat} (found : stringLength? cs = some n) :
    n ≤ cs.length := by
  fun_induction stringLength? cs generalizing n with
  | case1 => cases found
  | case2 rest =>
    cases found
    exact Nat.succ_le_succ (Nat.zero_le _)
  | case3 c rest known ih =>
    obtain ⟨m, measured, rfl⟩ := Option.map_eq_some_iff.mp found
    have inside := ih measured
    simp only [List.length_cons]
    omega
  | case4 => cases found
  | case5 => cases found
  | case6 c rest notQuote notEscape inside ih =>
    obtain ⟨m, measured, rfl⟩ := Option.map_eq_some_iff.mp found
    have inside := ih measured
    simp only [List.length_cons]
    omega

theorem length_le_of_quotedLength? {quote : Char} {inner : List Char → Option Nat}
    (bounded : ∀ cs n, inner cs = some n → n ≤ cs.length) {cs : List Char} {n : Nat}
    (found : quotedLength? quote inner cs = some n) : n ≤ cs.length := by
  cases cs with
  | nil => cases found
  | cons c cs =>
    simp only [quotedLength?] at found
    split at found
    next =>
      obtain ⟨m, measured, rfl⟩ := Option.map_eq_some_iff.mp found
      have inside := bounded cs m measured
      rw [List.length_cons]
      omega
    next => cases found

theorem quotedLength?_append_of_characterOf {cs : List Char} {c : Char} (shape : CharacterOf cs c)
    (rest : List Char) : quotedLength? '\x27' characterLength? (cs ++ rest) = some cs.length := by
  cases shape with
  | quoted inside => simp [quotedLength?, characterLength?_append inside, Nat.add_comm]

theorem quotedLength?_append_of_stringOf {cs text : List Char} (shape : StringOf cs text) (rest : List Char) :
    quotedLength? '\x22' stringLength? (cs ++ rest) = some cs.length := by
  cases shape with
  | quoted inside => simp [quotedLength?, stringLength?_append inside, Nat.add_comm]

theorem measures_character : Measures (quotedLength? '\x27' characterLength?) fun cs => ∃ c, CharacterOf cs c := by
  refine .of_exact (fun cs n found => ⟨?_, ?_⟩) ?_
  · exact length_le_of_quotedLength? (fun _ _ => length_le_of_characterLength?) found
  · obtain ⟨rest, m, measured, taken⟩ := of_quotedLength? found
    rw [taken]
    exact characterOf_of_characterLength? measured
  · rintro front rest ⟨c, shape⟩
    exact quotedLength?_append_of_characterOf shape rest

theorem measures_string : Measures (quotedLength? '\x22' stringLength?) fun cs => ∃ text, StringOf cs text := by
  refine .of_exact (fun cs n found => ⟨?_, ?_⟩) ?_
  · exact length_le_of_quotedLength? (fun _ _ => length_le_of_stringLength?) found
  · obtain ⟨rest, m, measured, taken⟩ := of_quotedLength? found
    obtain ⟨us, text, inner, inside⟩ := spellsAll_of_stringLength? measured
    rw [taken, inner]
    exact ⟨text, .quoted inside⟩
  · rintro front rest ⟨text, shape⟩
    exact quotedLength?_append_of_stringOf shape rest

/-! ## Symbols -/

theorem measures_symbolLength? : Measures symbolLength? fun cs => String.ofList cs ∈ symbols where
  found cs n found := by
    refine ⟨?_, mem_symbols_of_symbolLength? found⟩
    cases cs with
    | nil => cases found
    | cons c cs =>
      simp only [symbolLength?] at found
      split at found
      next double =>
        cases found
        simp only [Bool.and_eq_true, beq_iff_eq, List.head?_eq_some_iff] at double
        obtain ⟨-, rest, rfl⟩ := double
        simp only [List.length_cons]
        omega
      next =>
        split at found
        next =>
          cases found
          exact Nat.succ_le_succ (Nat.zero_le _)
        next => cases found
  longest front rest listed := by
    have single : ∀ c ∈ ['<', '>', '=', '+', '-', '*', '/', '(', ')', ',', '.', ':', ';'],
        ∃ n, symbolLength? (c :: rest) = some n ∧ 1 ≤ n := by
      intro c mem
      rw [symbolLength?, if_pos mem]
      split
      · exact ⟨2, rfl, by decide⟩
      · exact ⟨1, rfl, Nat.le_refl _⟩
    have spelled : front ∈ symbols.map String.toList :=
      List.mem_map.mpr ⟨_, listed, String.toList_ofList⟩
    simp only [symbols, List.map_cons, List.map_nil, List.mem_cons, List.not_mem_nil, or_false] at spelled
    rcases spelled with
      rfl | rfl | rfl | rfl | rfl | rfl | rfl | rfl | rfl | rfl | rfl | rfl | rfl | rfl | rfl | rfl | rfl
    iterate 4 exact ⟨2, rfl, Nat.le_refl _⟩
    all_goals exact single _ (by decide)

end Lexeme

/-! ## All shapes -/

namespace Shape

open Lexeme

/-- The length of the stretch of a shape at the front of a text. -/
def length? : Shape → List Char → Option Nat
  | blank => runLength? Text.isBlank Text.isBlank
  | decimal => decimalLength?
  | integer => integerLength?
  | word => runLength? isWordStart isWordPart
  | character => quotedLength? '\x27' characterLength?
  | string => quotedLength? '\x22' stringLength?
  | symbol => symbolLength?

/-- The shapes in the order in which they are tried. -/
def order : List Shape :=
  [blank, decimal, integer, word, character, string, symbol]

theorem mem_order (shape : Shape) : shape ∈ order := by
  cases shape <;> decide

/-- The measure of a shape finds the longest stretch of that shape. -/
theorem measures (shape : Shape) : Measures shape.length? shape.Fits := by
  cases shape with
  | blank =>
    refine (measures_runLength? Text.isBlank Text.isBlank).congr fun cs => ⟨?_, ?_⟩
    · rintro ⟨c, ds, rfl, first, others⟩
      exact ⟨List.cons_ne_nil _ _, List.forall_mem_cons.mpr ⟨first, others⟩⟩
    · rintro ⟨nonempty, all⟩
      obtain ⟨c, ds, rfl⟩ := List.exists_cons_of_ne_nil nonempty
      exact ⟨c, ds, rfl, List.forall_mem_cons.mp all⟩
  | decimal => exact measures_decimalLength?
  | integer => exact measures_integerLength?
  | word =>
    refine (measures_runLength? isWordStart isWordPart).congr fun cs => ⟨?_, ?_⟩
    · rintro ⟨c, ds, rfl, first, others⟩
      exact .word first others
    · rintro ⟨first, others⟩
      exact ⟨_, _, rfl, first, others⟩
  | character => exact measures_character
  | string => exact measures_string
  | symbol => exact measures_symbolLength?

end Shape

namespace Lexeme

/-- The shapes are tried in their order, and the first that is found is taken. -/
theorem front?_eq_findSome? (cs : List Char) :
    front? cs = Shape.order.findSome? fun shape => (shape.length? cs).map (shape, ·) := by
  simp only [front?, Shape.order, List.findSome?_cons, List.findSome?_nil, Shape.length?, Option.orElse_eq_or]
  repeat' split
  all_goals simp_all

variable {cs rest : List Char} {shape : Shape} {n : Nat}

theorem front?_eq_some_iff :
    front? cs = some (shape, n) ↔ ∃ earlier later, Shape.order = earlier ++ shape :: later ∧
      shape.length? cs = some n ∧ ∀ other ∈ earlier, other.length? cs = none := by
  rw [front?_eq_findSome?, List.findSome?_eq_some_iff]
  simp only [Option.map_eq_none_iff, Option.map_eq_some_iff, Prod.mk.injEq]
  constructor
  · rintro ⟨earlier, _, later, isOrder, ⟨_, found, rfl, rfl⟩, none⟩
    exact ⟨earlier, later, isOrder, found, none⟩
  · rintro ⟨earlier, later, isOrder, found, none⟩
    exact ⟨earlier, shape, later, isOrder, ⟨n, found, rfl, rfl⟩, none⟩

/-- A stretch of a shape is found if no shape that is tried before it is. -/
theorem front?_eq_some_of_earlier (measured : shape.length? cs = some n)
    (none : ∀ other ∈ Shape.order.takeWhile (· ≠ shape), other.length? cs = none) : front? cs = some (shape, n) := by
  have isOrder : ∃ later, Shape.order = Shape.order.takeWhile (· ≠ shape) ++ shape :: later := by
    cases shape <;> exact ⟨_, rfl⟩
  obtain ⟨later, isOrder⟩ := isOrder
  exact front?_eq_some_iff.mpr ⟨_, later, isOrder, measured, none⟩

theorem length_le_of_front? (found : front? cs = some (shape, n)) : n ≤ cs.length := by
  obtain ⟨-, -, -, measured, -⟩ := front?_eq_some_iff.mp found
  exact (shape.measures.found cs n measured).1

/-- Nothing is found at the front of a text if and only if nothing of any shape stands there. -/
theorem front?_eq_none_iff : front? cs = none ↔ ∀ shape : Shape, ∀ front, shape.Fits front → ¬ front <+: cs := by
  rw [front?_eq_findSome?, List.findSome?_eq_none_iff]
  simp only [Option.map_eq_none_iff]
  constructor
  · rintro none shape front fits ⟨rest, rfl⟩
    obtain ⟨n, found, -⟩ := shape.measures.longest front rest fits
    rw [none shape shape.mem_order] at found
    cases found
  · intro none shape _
    cases found : shape.length? cs with
    | none => rfl
    | some n => exact absurd (List.take_prefix n cs) (none shape _ (shape.measures.found cs n found).2)

/-- What is found does not depend on the text behind it. -/
theorem front?_of_append (found : front? (cs ++ rest) = some (shape, n)) (inside : n ≤ cs.length) :
    front? cs = some (shape, n) := by
  obtain ⟨earlier, later, isOrder, measured, none⟩ := front?_eq_some_iff.mp found
  refine front?_eq_some_iff.mpr ⟨earlier, later, isOrder, shape.measures.of_append measured inside, ?_⟩
  exact fun other mem => other.measures.eq_none_of_append (none other mem)

end Lexeme

end Primer
