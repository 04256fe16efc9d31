import Primer.Check.Expression
import Primer.Proofs.Check.Judgement
import Primer.Proofs.Outcome
import Primer.Run.Evaluate

/-!
# Values of a type

`Ty.Holds` says which values a type promises. A type that nothing is done with promises nothing: whatever
is called nil, or anything at all, may turn out to be any value.

The laws of this module are those of single operations. Values that are what their types promise are
combined to a value that is what the type of the operation promises, or fail for a reason that has nothing
to do with kinds; and no operation on values ever fails for the sake of a name.
-/

namespace Primer

/-- The values that a type promises. -/
def Ty.Holds : Ty → Value → Prop
  | .any, _ => True
  | .nil, _ => True
  | .comparable, .int _ => True
  | .comparable, .dec _ => True
  | .comparable, .char _ => True
  | .comparable, .str _ => True
  | .boolean, .bool _ => True
  | .integer, .int _ => True
  | .decimal, .dec _ => True
  | .character, .char _ => True
  | .string, .str _ => True
  | .integerIterable, .range _ _ => True
  | _, _ => False

namespace Fault

/-- Whether a fault says that a name is bound twice, or not at all, or to nothing that can be assigned. -/
def isOfNames : Fault → Bool
  | variableExists _ => true
  | functionExists _ _ => true
  | notAssignable => true
  | unresolved _ _ => true
  | _ => false

/-- Whether a fault says that a value is of the wrong kind. -/
def isOfKinds : Fault → Bool
  | wrongKind _ _ => true
  | _ => false

/-- That a fault is not one of names and, where kinds are checked, not one of kinds. -/
def Safe (strict : Prop) (f : Fault) : Prop :=
  f.isOfNames = false ∧ (strict → f.isOfKinds = false)

end Fault

namespace Ty

/-- What goes where another type is wanted is what that type promises. -/
theorem holds_of_accepts {wanted given : Ty} {x : Value} (accepted : wanted.accepts given) (holds : given.Holds x) :
    wanted.Holds x := by
  simp only [accepts, Bool.or_eq_true, Bool.and_eq_true, beq_iff_eq] at accepted
  rcases accepted with (rfl | rfl) | ⟨rfl, ordered⟩
  · exact holds
  · trivial
  · cases given <;> simp [isOrdered] at ordered <;> cases x <;> trivial

theorem holds_of_literalType {x : Value} {offset : Nat} {t : Ty} (typed : Check.literalType x offset = .ok t) :
    t.Holds x := by
  cases x with
  | nil | bool | char | str =>
    cases typed
    trivial
  | int n =>
    simp only [Check.literalType] at typed
    split at typed
    next =>
      cases typed
      trivial
    next => split at typed <;> cases typed
  | dec d =>
    simp only [Check.literalType] at typed
    split at typed
    next => cases typed
    next =>
      cases typed
      trivial
  | range | list | object =>
    simp only [Check.literalType] at typed
    split at typed <;> cases typed

end Ty

namespace Value

theorem eq_bool_of_holds {x : Value} (holds : Ty.boolean.Holds x) : ∃ b, x = .bool b := by
  cases x with
  | bool b => exact ⟨b, rfl⟩
  | _ => cases holds

theorem eq_range_of_holds {x : Value} (holds : Ty.integerIterable.Holds x) : ∃ lo hi, x = .range lo hi := by
  cases x with
  | range lo hi => exact ⟨lo, hi, rfl⟩
  | _ => cases holds

/-! ## Operations -/

theorem isOfNames_of_order {a b : Value} {f : Fault} (failed : a.order b = .error f) : f.isOfNames = false := by
  unfold order at failed
  split at failed
  case h_6 =>
    split at failed <;> cases failed <;> rfl
  all_goals cases failed

theorem eq_unwritableInteger_of_join {a b : Value} {f : Fault} (failed : a.join b = .error f) :
    f = .unwritableInteger := by
  unfold join at failed
  split at failed <;> cases failed
  rfl

/-- Two integers can be combined unless one is divided by zero. -/
theorem eq_divisionByZero_of_integerOperation {op : Operator} {g : Int → Int → Except Fault Int} {m n : Int}
    {f : Fault} (known : integerOperation? op = some g) (failed : g m n = .error f) : f = .divisionByZero := by
  cases op with
  | add | sub | mul =>
    cases known
    cases failed
  | div =>
    cases known
    unfold quotient at failed
    split at failed <;> cases failed
    rfl
  | _ => cases known

/-- Two decimals can be combined unless one is divided by zero. -/
theorem eq_divisionByZero_of_decimalOperation {op : Operator} {g : Decimal → Decimal → Except Fault Decimal}
    {c d : Decimal} {f : Fault} (known : decimalOperation? op = some g) (failed : g c d = .error f) :
    f = .divisionByZero := by
  cases op with
  | add | sub | mul =>
    cases known
    cases failed
  | div =>
    cases known
    unfold decimalQuotient at failed
    split at failed <;> cases failed
    rfl
  | _ => cases known

theorem isOfNames_of_arithmetic {op : Operator} {a b : Value} {f : Fault} (failed : arithmetic op a b = .error f) :
    f.isOfNames = false := by
  unfold arithmetic at failed
  split at failed
  next =>
    rw [eq_unwritableInteger_of_join failed]
    rfl
  next =>
    split at failed
    next =>
      split at failed
      next => cases failed; rfl
      next known =>
        split at failed
        next =>
          rw [eq_divisionByZero_of_integerOperation known (Except.map_eq_error_iff.mp failed)]
          rfl
        next => cases failed; rfl
    next =>
      split at failed
      next => cases failed; rfl
      next known =>
        split at failed
        next =>
          rw [eq_divisionByZero_of_decimalOperation known (Except.map_eq_error_iff.mp failed)]
          rfl
        next => cases failed; rfl
    next => cases failed; rfl

/-- Two integers give an integer, unless one is divided by zero. -/
theorem arithmetic_int {op : Operator} (isArithmetic : op ∈ [.add, .sub, .mul, .div]) (m n : Int) :
    (∀ x, arithmetic op (.int m) (.int n) = .ok x → Ty.integer.Holds x) ∧
      ∀ f, arithmetic op (.int m) (.int n) = .error f → f.isOfKinds = false := by
  obtain ⟨g, known⟩ : ∃ g, integerOperation? op = some g := by
    simp only [List.mem_cons, List.not_mem_nil, or_false] at isArithmetic
    rcases isArithmetic with rfl | rfl | rfl | rfl <;> exact ⟨_, rfl⟩
  have mapped : arithmetic op (.int m) (.int n) = (g m n).map .int := by
    simp [arithmetic, isStr, known]
  rw [mapped]
  refine ⟨fun x same => ?_, fun f failed => ?_⟩
  · obtain ⟨k, -, rfl⟩ := Except.map_eq_ok_iff.mp same
    trivial
  · rw [eq_divisionByZero_of_integerOperation known (Except.map_eq_error_iff.mp failed)]
    rfl

/-- Two decimals give a decimal, unless one is divided by zero. -/
theorem arithmetic_dec {op : Operator} (isArithmetic : op ∈ [.add, .sub, .mul, .div]) (c d : Decimal) :
    (∀ x, arithmetic op (.dec c) (.dec d) = .ok x → Ty.decimal.Holds x) ∧
      ∀ f, arithmetic op (.dec c) (.dec d) = .error f → f.isOfKinds = false := by
  obtain ⟨g, known⟩ : ∃ g, decimalOperation? op = some g := by
    simp only [List.mem_cons, List.not_mem_nil, or_false] at isArithmetic
    rcases isArithmetic with rfl | rfl | rfl | rfl <;> exact ⟨_, rfl⟩
  have mapped : arithmetic op (.dec c) (.dec d) = (g c d).map .dec := by
    simp [arithmetic, isStr, known]
  rw [mapped]
  refine ⟨fun x same => ?_, fun f failed => ?_⟩
  · obtain ⟨k, -, rfl⟩ := Except.map_eq_ok_iff.mp same
    trivial
  · rw [eq_divisionByZero_of_decimalOperation known (Except.map_eq_error_iff.mp failed)]
    rfl

/-- No operation on values fails for the sake of a name. -/
theorem isOfNames_of_combine {op : Operator} {a b : Value} {f : Fault} (failed : a.combine op b = .error f) :
    f.isOfNames = false := by
  cases op with
  | eq | ne => cases failed
  | lt | le | gt | ge => exact isOfNames_of_order (Except.map_eq_error_iff.mp failed)
  | _ => exact isOfNames_of_arithmetic failed

/-- Two values of one ordered type have an order. -/
theorem order_of_holds {t : Ty} {a b : Value} (comparable : Ty.comparable.accepts t) (notLoose : t ≠ .comparable)
    (left : t.Holds a) (right : t.Holds b) : ∃ o, a.order b = .ok o := by
  cases t with
  | integer | decimal | character | string =>
    cases a <;> cases left
    cases b <;> cases right
    exact ⟨_, rfl⟩
  | comparable => exact absurd rfl notLoose
  | _ => cases comparable

/-- Values that are what their types promise combine to what the type of the operation promises. -/
theorem combine_of_holds {op : Operator} {l r t : Ty} {a b : Value} (operates : Operates op l r t)
    (plain : op.decisive? = none) (ordered : op.isOrder → l ≠ .comparable) (left : l.Holds a)
    (right : r.Holds b) :
    (∀ x, a.combine op b = .ok x → t.Holds x) ∧ ∀ f, a.combine op b = .error f → f.isOfKinds = false := by
  cases operates with
  | logical isLogical =>
    simp only [List.mem_cons, List.not_mem_nil, or_false] at isLogical
    rcases isLogical with rfl | rfl <;> cases plain
  | comparison isComparison comparable =>
    have mapped : ∀ g : Ordering → Bool, l ≠ .comparable →
        (∀ x, (a.order b).map (fun o => Value.bool (g o)) = .ok x → Ty.boolean.Holds x) ∧
          ∀ f, (a.order b).map (fun o => Value.bool (g o)) = .error f → f.isOfKinds = false := by
      intro g notLoose
      obtain ⟨o, found⟩ := order_of_holds comparable notLoose left right
      rw [found]
      refine ⟨fun x same => ?_, fun f same => ?_⟩
      · cases same
        trivial
      · cases same
    simp only [List.mem_cons, List.not_mem_nil, or_false] at isComparison
    rcases isComparison with rfl | rfl | rfl | rfl | rfl | rfl
    all_goals first
      | exact mapped _ (ordered rfl)
      | exact ⟨fun x same => by cases same; trivial, fun f same => by cases same⟩
  | join isText =>
    have texts : a.isStr || b.isStr := by
      rcases isText with rfl | rfl
      · cases a <;> cases left
        rfl
      · cases b <;> cases right
        rw [Bool.or_eq_true]
        exact .inr rfl
    have joined : a.combine .add b = a.join b := by
      simp only [combine, arithmetic, texts, decide_true, Bool.and_self, if_true]
    rw [joined]
    refine ⟨fun x same => ?_, fun f failed => ?_⟩
    · unfold join at same
      split at same <;> cases same
      trivial
    · rw [eq_unwritableInteger_of_join failed]
      rfl
  | arithmetic isArithmetic isNumber =>
    have plainly : a.combine op b = arithmetic op a b := by
      simp only [List.mem_cons, List.not_mem_nil, or_false] at isArithmetic
      rcases isArithmetic with rfl | rfl | rfl | rfl <;> rfl
    rw [plainly]
    rcases isNumber with rfl | rfl
    · cases a <;> cases left
      cases b <;> cases right
      exact arithmetic_int isArithmetic _ _
    · cases a <;> cases left
      cases b <;> cases right
      exact arithmetic_dec isArithmetic _ _

end Value

end Primer
