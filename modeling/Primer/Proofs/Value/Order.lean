import Mathlib.Order.Compare
import Primer.Proofs.Number.Exact

/-!
# Order and equality of values

Two tests are made on values. The order of two values exists within each ordered kind, where decimals go by their
numbers. Equality exists for all values: it asks for one kind, and of decimals also for one scale, so that `1.0` and
`1.00` are neither equal nor ordered apart.

**The law** (`order_and_equality_are_coherent`): the order is total and transitive within each ordered kind and fails
for the sake of a kind everywhere else, equality is what the order leaves level at one scale, and it is an equivalence
of all values.

How two values compare is said once, case by case of their kind (`Compares`). What equality asks for is said as what
is seen of a single value: its kind, its scale and its face (`equal_iff`). The face is the number or the text that a
value stands for, or the elements of a range, whatever its kind, and this is also how the elements of two lists are
compared.
-/

namespace Primer

/-- Decimals are ordered as their numbers are. -/
theorem Decimal.order_eq_compare (a b : Decimal) : a.order b = compare a.toRat b.toRat := by
  have positive : (0 : ℚ) < 10 ^ min a.exponent b.exponent := zpow_pos (by norm_num) _
  rw [← scaledTo_mul (min_le_left a.exponent b.exponent), ← scaledTo_mul (min_le_right a.exponent b.exponent),
    ← cmp_eq_compare, cmp_mul_pos_right positive, Int.cast_strictMono.cmp_map_eq, cmp_eq_compare]
  rfl

theorem Decimal.toRat_ofInt (n : Int) : (ofInt n).toRat = n := by
  rw [ofInt, toRat_ofSigned, zpow_zero, mul_one]

/-! ## Ranges -/

namespace Bound

/-- A range has one more element for each step that does not lead out of it. -/
theorem lt_count_iff (b : Bound) (start : Int) (k : Nat) :
    k < b.count start ↔ b.admits (start + k * b.step) = true := by
  have rounded : (k : Int) < -(start - b.stop).fdiv b.step ↔ ¬ -(k : Int) ≤ (start - b.stop).fdiv b.step := by omega
  rw [count, Int.lt_toNat, rounded, admits]
  rcases Int.lt_or_gt_of_ne b.step_ne_zero with down | up
  · rw [if_neg (by omega), ← Int.neg_fdiv_neg, Int.fdiv_eq_ediv_of_nonneg _ (by omega),
      Int.le_ediv_iff_mul_le (by omega), decide_eq_true_iff, neg_mul_neg]
    omega
  · rw [if_pos up, Int.fdiv_eq_ediv_of_nonneg _ (by omega), Int.le_ediv_iff_mul_le up, decide_eq_true_iff, neg_mul]
    omega

/-- The elements are what a loop over the range sees: the first, and those from the next step on. -/
theorem elements_eq (b : Bound) (n : Int) :
    b.elements n = if b.admits n then n :: b.elements (n + b.step) else [] := by
  have first := b.lt_count_iff n 0
  rw [Nat.cast_zero, zero_mul, add_zero] at first
  split
  next admitted =>
    have later : ∀ k : Nat, k < b.count (n + b.step) ↔ k + 1 < b.count n := by
      intro k
      rw [lt_count_iff, lt_count_iff, Nat.cast_succ, add_mul, one_mul, add_assoc, add_comm b.step]
    have counted : b.count n = b.count (n + b.step) + 1 := by
      have positive := first.mpr admitted
      have last := later (b.count (n + b.step))
      have last' := later (b.count n - 1)
      omega
    rw [elements, counted, List.range_succ_eq_map, List.map_cons, List.map_map, elements]
    simp [add_assoc, add_mul, add_comm]
  next refused =>
    rw [elements, Nat.eq_zero_of_not_pos (mt first.mp refused)]
    rfl

theorem length_elements (b : Bound) (n : Int) : (b.elements n).length = b.count n := by
  rw [elements, List.length_map, List.length_range]

theorem getElem?_elements (b : Bound) (n : Int) {k : Nat} (lt : k < b.count n) :
    (b.elements n)[k]? = some (n + k * b.step) := by
  rw [elements, List.getElem?_map, List.getElem?_range lt]
  rfl

end Bound

/-- Ranges with the same elements have as many of them, the same first one if any, and the same steps if there is a
second one. -/
theorem Value.sameRange_iff {lo lo' : Int} {hi hi' : Bound} :
    sameRange lo hi lo' hi' = true ↔ hi.elements lo = hi'.elements lo' := by
  simp only [sameRange, Bool.or_eq_true, Bool.and_eq_true, beq_iff_eq]
  constructor
  · rintro ⟨counted, empty | ⟨rfl, single | stepped⟩⟩
    · rw [Bound.elements, Bound.elements, ← counted, empty]
      rfl
    · rw [Bound.elements, Bound.elements, ← counted, single]
      simp
    · rw [Bound.elements, Bound.elements, ← counted, stepped]
  · intro same
    have counted : hi.count lo = hi'.count lo' := by
      rw [← hi.length_elements, ← hi'.length_elements, same]
    have element : ∀ k : Nat, k < hi.count lo → lo + k * hi.step = lo' + k * hi'.step := by
      intro k lt
      apply Option.some.inj
      rw [← hi.getElem?_elements lo lt, ← hi'.getElem?_elements lo' (counted ▸ lt), same]
    refine ⟨counted, ?_⟩
    by_cases empty : hi.count lo = 0
    · exact .inl empty
    · have first : lo = lo' := by simpa using element 0 (Nat.pos_of_ne_zero empty)
      refine .inr ⟨first, ?_⟩
      by_cases single : hi.count lo = 1
      · exact .inl single
      · have second := element 1 (by omega)
        exact .inr (by omega)

-- Both have the elements 0 and 2.
example : Value.sameRange 0 { stop := 3, step := 2 } 0 { stop := 4, step := 2 } = true := by
  decide

namespace Value

/-- The kinds of value. All objects are of one kind: what is inside them only the host knows. -/
inductive Kind where
  | nil
  | boolean
  | integer
  | decimal
  | character
  | string
  | range
  | list
  | object
deriving DecidableEq

/-- The kind of a value. -/
def kind : Value → Kind
  | nil => .nil
  | bool _ => .boolean
  | int _ => .integer
  | dec _ => .decimal
  | char _ => .character
  | str _ => .string
  | range _ _ => .range
  | list _ => .list
  | object _ _ => .object

/-- The scale of a value, which only decimals have. -/
def scale? : Value → Option Int
  | dec d => some d.exponent
  | _ => none

/-! ## Order -/

/-- How two values of one ordered kind compare. -/
inductive Compares : Value → Value → Ordering → Prop
  | bool (a b : Bool) : Compares (.bool a) (.bool b) (compare a.toNat b.toNat)
  | int (a b : Int) : Compares (.int a) (.int b) (compare a b)
  | dec (a b : Decimal) : Compares (.dec a) (.dec b) (compare a.toRat b.toRat)
  | char (a b : Char) : Compares (.char a) (.char b) (compare a b)
  | str (a b : String) : Compares (.str a) (.str b) (compare a b)

variable {a b c : Value} {o o' : Ordering}

theorem Compares.order_eq (compares : Compares a b o) : a.order b = .ok o := by
  cases compares with
  | dec a b => exact congrArg _ (a.order_eq_compare b)
  | bool | int | char | str => rfl

theorem exists_compares (ordered : a.isOrdered) (same : a.kind = b.kind) : ∃ o, Compares a b o := by
  cases a with
  | bool a =>
    cases b with
    | bool b => exact ⟨_, .bool a b⟩
    | _ => cases same
  | int a =>
    cases b with
    | int b => exact ⟨_, .int a b⟩
    | _ => cases same
  | dec a =>
    cases b with
    | dec b => exact ⟨_, .dec a b⟩
    | _ => cases same
  | char a =>
    cases b with
    | char b => exact ⟨_, .char a b⟩
    | _ => cases same
  | str a =>
    cases b with
    | str b => exact ⟨_, .str a b⟩
    | _ => cases same
  | nil | range | list | object => cases ordered

/-- Values that are not both of one ordered kind have no order. -/
theorem exists_order_eq_error (other : a.isOrdered = true → a.kind ≠ b.kind) :
    ∃ expected actual, a.order b = .error (.wrongKind expected actual) := by
  unfold order
  split
  case h_6 => split <;> exact ⟨_, _, rfl⟩
  all_goals exact absurd rfl (other rfl)

theorem order_eq_ok_iff : a.order b = .ok o ↔ Compares a b o := by
  refine ⟨fun compared => ?_, Compares.order_eq⟩
  by_cases comparable : a.isOrdered = true ∧ a.kind = b.kind
  · obtain ⟨o', compares⟩ := exists_compares comparable.1 comparable.2
    cases compares.order_eq.symm.trans compared
    exact compares
  · obtain ⟨expected, actual, failed⟩ := exists_order_eq_error fun ordered same => comparable ⟨ordered, same⟩
    cases failed.symm.trans compared

theorem Compares.swap (compares : Compares a b o) : Compares b a o.swap := by
  cases compares with
  | bool a b =>
    rw [← Std.OrientedCmp.eq_swap]
    exact .bool b a
  | int a b =>
    rw [← Std.OrientedCmp.eq_swap]
    exact .int b a
  | dec a b =>
    rw [← Std.OrientedCmp.eq_swap]
    exact .dec b a
  | char a b =>
    rw [← Std.OrientedCmp.eq_swap]
    exact .char b a
  | str a b =>
    rw [← Std.OrientedCmp.eq_swap]
    exact .str b a

theorem Compares.trans (first : Compares a b o) (second : Compares b c o') (le : o.isLE) (le' : o'.isLE) :
    ∃ o'', Compares a c o'' ∧ o''.isLE := by
  cases first with
  | bool a b =>
    cases second with
    | bool _ c => exact ⟨_, .bool a c, Std.TransCmp.isLE_trans le le'⟩
  | int a b =>
    cases second with
    | int _ c => exact ⟨_, .int a c, Std.TransCmp.isLE_trans le le'⟩
  | dec a b =>
    cases second with
    | dec _ c => exact ⟨_, .dec a c, Std.TransCmp.isLE_trans le le'⟩
  | char a b =>
    cases second with
    | char _ c => exact ⟨_, .char a c, Std.TransCmp.isLE_trans le le'⟩
  | str a b =>
    cases second with
    | str _ c => exact ⟨_, .str a c, Std.TransCmp.isLE_trans le le'⟩

/-- Equality is what the order leaves level, at one scale. -/
theorem Compares.equal_iff (compares : Compares a b o) : a.equal b = true ↔ o = .eq ∧ a.scale? = b.scale? := by
  cases compares with
  | bool a b => cases a <;> cases b <;> decide
  | int a b => simp [equal, scale?]
  | dec a b => simp [equal, scale?, Decimal.order_eq_compare]
  | char a b => simp [equal, scale?]
  | str a b => simp [equal, scale?]

/-! ## Equality -/

/-- What a value is taken for where its kind does not matter: a number or a text if it stands for one. -/
inductive Face where
  | nil
  | number (q : ℚ)
  | text (s : String)
  | range (elements : List Int)
  | list (items : List Face)
  | object (number : Nat)

mutual
/-- The face of a value. -/
def face : Value → Face
  | nil => .nil
  | bool b => .number (Decimal.ofInt (if b then 1 else 0)).toRat
  | int n => .number (Decimal.ofInt n).toRat
  | dec d => .number d.toRat
  | char c => .text (String.singleton c)
  | str s => .text s
  | range lo hi => .range (hi.elements lo)
  | list items => .list (faces items)
  | object number _ => .object number

/-- The faces of values. -/
def faces : List Value → List Face
  | [] => []
  | v :: vs => v.face :: faces vs
end

mutual
theorem sameElement_iff (a b : Value) : a.sameElement b = true ↔ a.face = b.face := by
  cases a with
  | list xs =>
    cases b with
    | list ys => simpa [sameElement, face] using sameElements_iff xs ys
    | _ => simp [sameElement, number?, text?, face]
  | range lo hi =>
    cases b with
    | range lo' hi' => simp [sameElement, face, sameRange_iff]
    | _ => simp [sameElement, number?, text?, face]
  | _ => cases b <;> simp [sameElement, number?, text?, face, Decimal.order_eq_compare]

theorem sameElements_iff (xs ys : List Value) : sameElements xs ys = true ↔ faces xs = faces ys := by
  cases xs with
  | nil => cases ys <;> simp [sameElements, faces]
  | cons x xs =>
    cases ys with
    | nil => simp [sameElements, faces]
    | cons y ys => simp [sameElements, faces, sameElement_iff x y, sameElements_iff xs ys]
end

/-- Values are equal if they are of one kind and one scale and have one face. -/
theorem equal_iff (a b : Value) :
    a.equal b = true ↔ a.kind = b.kind ∧ a.scale? = b.scale? ∧ a.face = b.face := by
  cases a with
  | nil => cases b <;> simp [equal, kind, scale?, face]
  | bool x =>
    cases b with
    | bool y => cases x <;> cases y <;> simp [equal, kind, scale?, face, Decimal.toRat_ofInt]
    | _ => simp [equal, kind]
  | int m =>
    cases b with
    | int n => simp [equal, kind, scale?, face, Decimal.toRat_ofInt]
    | _ => simp [equal, kind]
  | dec c =>
    cases b with
    | dec d => simp [equal, kind, scale?, face, Decimal.order_eq_compare, and_comm]
    | _ => simp [equal, kind]
  | char c =>
    cases b with
    | char d => simp [equal, kind, scale?, face]
    | _ => simp [equal, kind]
  | str s =>
    cases b with
    | str t => simp [equal, kind, scale?, face]
    | _ => simp [equal, kind]
  | range lo hi =>
    cases b with
    | range lo' hi' => simp [equal, kind, scale?, face, sameRange_iff]
    | _ => simp [equal, kind]
  | list xs =>
    cases b with
    | list ys => simp [equal, kind, scale?, face, sameElements_iff]
    | _ => simp [equal, kind]
  | object i typeName =>
    cases b with
    | object j typeName' => simp [equal, kind, scale?, face]
    | _ => simp [equal, kind]

theorem equal_equivalence : Equivalence fun a b : Value => a.equal b = true where
  refl a := (equal_iff a a).mpr ⟨rfl, rfl, rfl⟩
  symm {a b} same := by
    obtain ⟨kind, scale, face⟩ := (equal_iff a b).mp same
    exact (equal_iff b a).mpr ⟨kind.symm, scale.symm, face.symm⟩
  trans {a b c} first second := by
    obtain ⟨kind, scale, face⟩ := (equal_iff a b).mp first
    obtain ⟨kind', scale', face'⟩ := (equal_iff b c).mp second
    exact (equal_iff a c).mpr ⟨kind.trans kind', scale.trans scale', face.trans face'⟩

/-- The order is total and transitive on each ordered kind, goes by the numbers of decimals, and fails for the sake of
a kind everywhere else. Equality is what the order leaves level, for decimals at one scale; it never holds across kinds,
is an equivalence of all values, and asks of ranges that they have the same elements. -/
theorem order_and_equality_are_coherent :
    (∀ a b : Value, a.isOrdered → a.kind = b.kind → ∃ o, a.order b = .ok o ∧ b.order a = .ok o.swap ∧
      (a.equal b = true ↔ o = .eq ∧ a.scale? = b.scale?)) ∧
    (∀ (a b c : Value) (o o' : Ordering), a.order b = .ok o → b.order c = .ok o' → o.isLE → o'.isLE →
      ∃ o'', a.order c = .ok o'' ∧ o''.isLE) ∧
    (∀ a b : Decimal, (dec a).order (dec b) = .ok (compare a.toRat b.toRat)) ∧
    (∀ a b : Value, (a.isOrdered → a.kind ≠ b.kind) →
      ∃ f, a.order b = .error f ∧ f.family? = some "RuntimeTypeError") ∧
    (∀ a b : Value, a.kind ≠ b.kind → a.equal b = false) ∧
    (Equivalence fun a b : Value => a.equal b = true) ∧
    (∀ (lo lo' : Int) (hi hi' : Bound),
      (range lo hi).equal (range lo' hi') = true ↔ hi.elements lo = hi'.elements lo') ∧
    ∀ (b : Bound) (n : Int), b.elements n = if b.admits n then n :: b.elements (n + b.step) else [] := by
  refine ⟨?_, ?_, fun a b => (Compares.dec a b).order_eq, ?_, ?_, equal_equivalence, fun _ _ _ _ => sameRange_iff,
    Bound.elements_eq⟩
  · intro a b ordered same
    obtain ⟨o, compares⟩ := exists_compares ordered same
    exact ⟨o, compares.order_eq, compares.swap.order_eq, compares.equal_iff⟩
  · intro a b c o o' first second le le'
    obtain ⟨o'', compares, le''⟩ := (order_eq_ok_iff.mp first).trans (order_eq_ok_iff.mp second) le le'
    exact ⟨o'', compares.order_eq, le''⟩
  · intro a b other
    obtain ⟨expected, actual, failed⟩ := exists_order_eq_error other
    exact ⟨_, failed, rfl⟩
  · intro a b other
    rw [Bool.eq_false_iff]
    exact fun same => other ((equal_iff a b).mp same).1

/-- One at two scales is level with itself and not equal to itself, and it is no boolean. -/
theorem one_at_two_scales :
    let one := dec ⟨false, 10, -1⟩
    let one' := dec ⟨false, 100, -2⟩
    one.isOrdered ∧ one.kind = one'.kind ∧ one.order one' = .ok .eq ∧ one.equal one' = false ∧
      (∃ f, (bool true).order one = .error f ∧ f.family? = some "RuntimeTypeError") ∧
      ∃ o, (dec ⟨true, 5, 0⟩).order one' = .ok o ∧ o.isLE := by
  intro one one'
  obtain ⟨compared, ordered, -, failed, -⟩ := order_and_equality_are_coherent
  obtain ⟨o, -, -, equal⟩ := compared one one' rfl rfl
  have isLevel : one.order one' = .ok .eq := by decide
  have isLess : (dec ⟨true, 5, 0⟩).order one = .ok .lt := by decide
  refine ⟨rfl, rfl, isLevel, ?_, failed (bool true) one (by decide), ?_⟩
  · rw [Bool.eq_false_iff, Ne, equal]
    exact fun same => absurd same.2 (by decide)
  · exact ordered _ _ _ _ _ isLess isLevel rfl rfl

end Value

end Primer
