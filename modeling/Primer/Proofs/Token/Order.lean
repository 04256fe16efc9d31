import Primer.Proofs.Token.WellFormed

/-!
# Where tokens stand

**The law** (`lex_inOrder`): the tokens of a text follow one another without overlap, and none of them is
empty. So no two of them have the same offset, and where the last one ends none of them begins.
-/

namespace Primer

/-- That tokens follow one another without overlap from an offset on, and none is empty. -/
inductive InOrder : Nat → List Token → Prop
  | nil (offset : Nat) : InOrder offset []
  | cons {offset : Nat} {t : Token} {ts : List Token} (after : offset ≤ t.offset) (filled : t.offset < t.stop)
      (others : InOrder t.stop ts) : InOrder offset (t :: ts)

namespace InOrder

variable {offset before : Nat} {t u : Token} {ts : List Token}

theorem mono (order : InOrder offset ts) (le : before ≤ offset) : InOrder before ts := by
  cases order with
  | nil => exact .nil before
  | cons after filled others => exact .cons (Nat.le_trans le after) filled others

theorem le_offset (order : InOrder offset ts) (mem : t ∈ ts) : offset ≤ t.offset := by
  induction order with
  | nil => simp at mem
  | cons after filled _ ih =>
    rcases List.mem_cons.mp mem with rfl | mem
    · exact after
    · have later := ih mem
      omega

theorem pairwise (order : InOrder offset ts) : ts.Pairwise fun t u => t.offset < u.offset := by
  induction order with
  | nil => exact .nil
  | cons _ filled others ih => exact .cons (fun u mem => Nat.lt_of_lt_of_le filled (others.le_offset mem)) ih

/-- A token is told by its offset. -/
theorem index_eq {i j : Nat} (order : InOrder offset ts) (isAt : ts[i]? = some t) (isAt' : ts[j]? = some u)
    (same : t.offset = u.offset) : i = j := by
  obtain ⟨inside, rfl⟩ := List.getElem?_eq_some_iff.mp isAt
  obtain ⟨inside', rfl⟩ := List.getElem?_eq_some_iff.mp isAt'
  have increasing := List.pairwise_iff_getElem.mp order.pairwise
  rcases Nat.lt_trichotomy i j with less | equal | more
  · exact absurd same (Nat.ne_of_lt (increasing i j inside inside' less))
  · exact equal
  · exact absurd same.symm (Nat.ne_of_lt (increasing j i inside' inside more))

/-- All tokens begin before the last one ends. -/
theorem offset_lt_stop {last : Token} (order : InOrder offset ts) (isLast : ts.getLast? = some last)
    (mem : t ∈ ts) : t.offset < last.stop := by
  induction order generalizing t with
  | nil => simp at mem
  | @cons _ first others _ filled order ih =>
    cases others with
    | nil =>
      cases isLast
      rw [List.mem_singleton.mp mem]
      exact filled
    | cons next others =>
      rw [List.getLast?_cons_cons] at isLast
      rcases List.mem_cons.mp mem with rfl | mem
      · have later := order.le_offset List.mem_cons_self
        have ended := ih isLast List.mem_cons_self
        omega
      · exact ih isLast mem

end InOrder

theorem lexFrom_inOrder {before : Option Token} {offset : Nat} {cs : List Char} {tokens : List Token}
    (lexed : lexFrom before offset cs = .ok tokens) : InOrder offset tokens := by
  fun_induction lexFrom before offset cs generalizing tokens with
  | case1 before offset =>
    cases lexed
    exact .nil offset
  | case2 => cases lexed
  | case3 before offset c cs shape n found isMinus minus =>
    rename_i ih
    obtain ⟨more, rest, rfl⟩ := Except.map_eq_ok_iff.mp lexed
    have stop : minus.stop = offset + 1 := congrArg (offset + ·) (by decide : "-".length = 1)
    refine .cons (Nat.le_refl _) ?_ (stop ▸ ih rest)
    rw [stop]
    exact Nat.lt_succ_self offset
  | case4 before offset c cs shape n found notMinus literal rest blank =>
    rename_i ih
    exact (ih lexed).mono (Nat.le_add_right offset n)
  | case5 before offset c cs shape n found notMinus literal rest kind isKind token =>
    rename_i ih
    obtain ⟨more, others, rfl⟩ := Except.map_eq_ok_iff.mp lexed
    have taken := Lexeme.ne_nil_of_fits (Lexeme.fits_of_front? shape n found)
    have length : token.stop = offset + (1 + min (n - 1) cs.length) := by
      simp [token, literal, Token.stop]
    have positive : n ≠ 0 := by
      rintro rfl
      exact taken rfl
    refine .cons (Nat.le_refl _) ?_ ((ih others).mono ?_)
    · change offset < token.stop
      omega
    · omega

theorem lex_inOrder {text : List Char} {tokens : List Token} (lexed : lex text = .ok tokens) :
    InOrder 0 tokens :=
  lexFrom_inOrder lexed

end Primer
