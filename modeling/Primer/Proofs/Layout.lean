import Primer.CommandLine.Program
import Primer.Proofs.Check.Unplaced
import Primer.Proofs.Grammar.Lookahead
import Primer.Proofs.Java.Unplaced
import Primer.Proofs.Run.Essence

/-!
# Layout never matters

Two texts whose tokens have the same kinds and literals, one by one, differ in nothing but blanks and line
breaks. Such texts are the same program: whatever is done with one of them comes to the same with the
other, up to the offsets in what is said about it.

**The law** (`layout_never_matters`): they are read alike, checked alike, written as the same Java, and run
alike.

Each stage of the way forgets places: reading, because it looks at kinds and literals only
(`Reading.source_tracks`), checking, because it uses an offset to complain at and nothing else
(`checkSource_unplaced`), and writing and running, because they do not look at offsets at all
(`Java.source_unplaced`, `Run.program_essence`). What is left here is to put the stages in a row.
-/

namespace Primer

open CommandLine (rootWorld)

/-! ## What it is to be alike -/

/-- That two readings, each with its tokens, came to the same: trees that are equal up to offsets, the same
issue with the same number of tokens before it, or the same number that cannot be read. -/
inductive ReadAlike (tokens tokens' : List Token) : Except ReadFailure Source → Except ReadFailure Source → Prop
  | read {s s' : Source} (same : s.unplaced = s'.unplaced) : ReadAlike tokens tokens' (.ok s) (.ok s')
  | refused (issue : ParseIssue) (before : Nat) :
      ReadAlike tokens tokens'
        (.error (.error { issue := .grammatical issue, offset := offsetOf tokens (tokens.drop before) }))
        (.error (.error { issue := .grammatical issue, offset := offsetOf tokens' (tokens'.drop before) }))
  | unreadableInteger (cause : Numeral.Unreadable) :
      ReadAlike tokens tokens' (.error (.unreadableInteger cause)) (.error (.unreadableInteger cause))
  | unreadableDecimal : ReadAlike tokens tokens' (.error .unreadableDecimal) (.error .unreadableDecimal)

/-- That two checks came to the same: both accept, or both end with the same complaint. They leave trees
that are equal up to offsets, and the same space. -/
structure CheckedAlike (c c' : Checked Source) : Prop where
  result : c.result.mapError CheckError.unplaced = c'.result.mapError CheckError.unplaced
  tree : c.tree.unplaced = c'.tree.unplaced
  space : c.space = c'.space

/-- That two worlds are the same but for the text of the bodies of functions: same scopes, same values of
all variables, same objects, same output. -/
structure World.Alike (w w' : World) : Prop where
  space : w.space = w'.space
  store : w.store = w'.store
  methods : w.methods = w'.methods

/-- That two runs came to the same: they give the same value or stop for the same reason, in worlds that
are alike. -/
inductive RanAlike : EStateM.Result Stop World Value → EStateM.Result Stop World Value → Prop
  | ok (x : Value) {w w' : World} (alike : w.Alike w') : RanAlike (.ok x w) (.ok x w')
  | error (stop : Stop) {w w' : World} (alike : w.Alike w') : RanAlike (.error stop w) (.error stop w')

/-! ## The stages -/

namespace Reading

theorem agree_of_unplaced_eq {ts ts' : List Token} (same : ts.map Token.unplaced = ts'.map Token.unplaced)
    (limit : Nat) : Agree limit ts ts' := by
  induction ts generalizing ts' with
  | nil =>
    cases List.map_eq_nil_iff.mp same.symm
    exact .nil
  | cons t ts ih =>
    obtain ⟨t', ts', rfl, first, others⟩ := List.map_eq_cons_iff.mp same.symm
    exact .cons (.inl first.symm) (fun _ => first.symm) (ih others.symm)

/-- Lists that agree all the way have the same length. -/
theorem Agree.length_eq {ts ts' : List Token} (agree : Agree 0 ts ts') : ts.length = ts'.length := by
  induction agree with
  | beyond far => exact absurd far (Nat.not_lt_zero _)
  | nil => rfl
  | cons _ _ _ ih => exact congrArg (· + 1) ih

end Reading

theorem eq_drop_of_suffix {α : Type} {rest ts : List α} (suffix : rest <:+ ts) :
    rest = ts.drop (ts.length - rest.length) := by
  obtain ⟨taken, rfl⟩ := suffix
  simp

/-- Tokens with the same kinds and literals are read alike. -/
theorem parseSource_alike {tokens tokens' : List Token}
    (same : tokens.map Token.unplaced = tokens'.map Token.unplaced) :
    ReadAlike tokens tokens' (parseSource tokens) (parseSource tokens') := by
  have agree := Reading.agree_of_unplaced_eq same 0
  have follows := (Reading.source_tracks tokens.length).follows 0 tokens tokens' le_rfl (Nat.zero_le _) agree
  unfold Reading.whole at follows
  unfold parseSource
  match read : Reading.source tokens with
  | .ok s =>
    rw [read] at follows
    obtain ⟨_, _, read', sameTree, -⟩ := follows (Nat.zero_le _)
    obtain ⟨s', isRead, isTree⟩ := Except.map_eq_ok_iff.mp read'
    cases isTree
    rw [isRead]
    exact .read sameTree
  | .error (.unexpected issue rest) =>
    obtain ⟨rest', refused', agree'⟩ := Reading.source_refuses read (Nat.zero_le _) agree
    have left := eq_drop_of_suffix (Reading.source_leaves read)
    have left' := eq_drop_of_suffix (Reading.source_leaves refused')
    rw [← agree.length_eq, ← agree'.length_eq] at left'
    rw [refused', left, left']
    exact .refused issue _
  | .error (.unreadableInteger cause) =>
    rw [read] at follows
    rw [Except.map_eq_error_iff.mp (follows rfl)]
    exact .unreadableInteger cause
  | .error .unreadableDecimal =>
    rw [read] at follows
    rw [Except.map_eq_error_iff.mp (follows rfl)]
    exact .unreadableDecimal

/-- Trees that are equal up to offsets are checked alike. -/
theorem checkSource_alike {s s' : Source} (same : s.unplaced = s'.unplaced) (catalog : Catalog)
    (needsMain : Bool) (space : Space) (outer : ScopeId) :
    CheckedAlike (checkSource catalog needsMain space outer s) (checkSource catalog needsMain space outer s') := by
  have checked := checkSource_unplaced catalog needsMain space outer s
  rw [same, checkSource_unplaced] at checked
  obtain ⟨sameSpace, sameTree, sameResult⟩ := Checked.mk.inj checked.symm
  exact ⟨sameResult, sameTree, sameSpace⟩

/-- Trees that are equal up to offsets are written as the same Java. -/
theorem java_alike {s s' : Source} (same : s.unplaced = s'.unplaced) : Java.source s = Java.source s' := by
  rw [← Java.source_unplaced s, same, Java.source_unplaced]

theorem World.alike_of_essence_eq {w w' : World} (same : w.essence = w'.essence) : w.Alike w' := by
  obtain ⟨space, store, -, methods⟩ := World.mk.inj same
  exact ⟨space, store, methods⟩

/-- Programs with the same essence run alike. -/
theorem Run.program_alike {s s' : Source} (same : s.essence = s'.essence) (fuel calls : Nat) (outer : ScopeId)
    (w : World) : RanAlike (program fuel calls outer s w) (program fuel calls outer s' w) := by
  have mirrored := program_essence fuel calls outer s w
  rw [same, program_essence fuel calls outer s' w] at mirrored
  match ran : program fuel calls outer s w, ran' : program fuel calls outer s' w with
  | .ok x v, .ok x' v' =>
    rw [ran, ran'] at mirrored
    obtain ⟨sameValue, sameWorld⟩ := EStateM.Result.ok.inj mirrored
    subst sameValue
    exact .ok _ (World.alike_of_essence_eq sameWorld.symm)
  | .error stop v, .error stop' v' =>
    rw [ran, ran'] at mirrored
    obtain ⟨sameStop, sameWorld⟩ := EStateM.Result.error.inj mirrored
    subst sameStop
    exact .error _ (World.alike_of_essence_eq sameWorld.symm)
  | .ok x v, .error stop v' =>
    rw [ran, ran'] at mirrored
    cases mirrored
  | .error stop v, .ok x v' =>
    rw [ran, ran'] at mirrored
    cases mirrored

/-- Trees that are equal up to offsets run alike. -/
theorem Run.program_alike_of_unplaced {s s' : Source} (same : s.unplaced = s'.unplaced) (fuel calls : Nat)
    (outer : ScopeId) (w : World) : RanAlike (program fuel calls outer s w) (program fuel calls outer s' w) := by
  have sameEssence : s.essence = s'.essence := by
    rw [← s.essence_unplaced, same, s'.essence_unplaced]
  exact program_alike sameEssence fuel calls outer w

/-! ## All of the way -/

/-- **Layout.** Two texts with the same kinds and literals of tokens are read as trees that are equal up to offsets, or
refused with the same message at corresponding tokens. What was read of them is checked alike and written as the same
Java, and it runs alike, checked or not, over any world and whatever the bounds of the run. -/
theorem layout_never_matters {text text' : List Char} {tokens tokens' : List Token}
    (lexed : lex text = .ok tokens) (lexed' : lex text' = .ok tokens')
    (same : tokens.map (fun t => (t.kind, t.literal)) = tokens'.map fun t => (t.kind, t.literal)) :
    ReadAlike tokens tokens' (parseText text) (parseText text') ∧
      ∀ s s', parseText text = .ok s → parseText text' = .ok s' →
        (∀ fuel calls outer w, RanAlike (Run.program fuel calls outer s w) (Run.program fuel calls outer s' w)) ∧
          ∀ catalog needsMain space scope,
            let c := checkSource catalog needsMain space scope s
            let c' := checkSource catalog needsMain space scope s'
            CheckedAlike c c' ∧ Java.source c.tree = Java.source c'.tree ∧
              ∀ fuel calls outer w,
                RanAlike (Run.program fuel calls outer c.tree w) (Run.program fuel calls outer c'.tree w) := by
  have sameTokens : tokens.map Token.unplaced = tokens'.map Token.unplaced := by
    have forgotten := congrArg (List.map fun p : Kind × String => Token.mk p.1 p.2 0) same
    rwa [List.map_map, List.map_map] at forgotten
  have alike : ReadAlike tokens tokens' (parseText text) (parseText text') := by
    unfold parseText
    rw [lexed, lexed']
    exact parseSource_alike sameTokens
  refine ⟨alike, fun s s' read read' => ?_⟩
  rw [read, read'] at alike
  cases alike with
  | read sameTree =>
    refine ⟨Run.program_alike_of_unplaced sameTree, fun catalog needsMain space scope => ?_⟩
    have checked := checkSource_alike sameTree catalog needsMain space scope
    exact ⟨checked, java_alike checked.tree, Run.program_alike_of_unplaced checked.tree⟩

/-- A program that gives 42, with the offsets that its text has. -/
def answerAt (start statement left right : Nat) : Source where
  fields := []
  methods := [{
    name := "main", params := [], resultTypeName := some "Integer", offset := start
    body := [.ret (.binary .mul (.literal (.int 6) left) (.literal (.int 7) right) left) statement] }]

/-- A program on one line, and one on several with a blank wherever one may stand. -/
theorem answer_alike_on_one_line_and_on_three :
    ∃ tokens tokens' s s',
      lex "DEF main(): Integer DO RETURN 6 * 7; END".toList = .ok tokens ∧
        lex "DEF main ( ) :\n  Integer DO RETURN 6*7 ;\nEND".toList = .ok tokens' ∧
        tokens.map (fun t => (t.kind, t.literal)) = tokens'.map (fun t => (t.kind, t.literal)) ∧
        parseText "DEF main(): Integer DO RETURN 6 * 7; END".toList = .ok s ∧
        parseText "DEF main ( ) :\n  Integer DO RETURN 6*7 ;\nEND".toList = .ok s' ∧
        Java.source (checkSource {} true rootWorld.1.space rootWorld.2 s).tree =
          Java.source (checkSource {} true rootWorld.1.space rootWorld.2 s').tree := by
  let tokens : List Token := [⟨.operator, "DEF", 0⟩, ⟨.identifier, "main", 4⟩, ⟨.operator, "(", 8⟩,
    ⟨.operator, ")", 9⟩, ⟨.operator, ":", 10⟩, ⟨.identifier, "Integer", 12⟩, ⟨.operator, "DO", 20⟩,
    ⟨.operator, "RETURN", 23⟩, ⟨.integer, "6", 30⟩, ⟨.operator, "*", 32⟩, ⟨.integer, "7", 34⟩,
    ⟨.operator, ";", 35⟩, ⟨.operator, "END", 37⟩]
  let tokens' : List Token := [⟨.operator, "DEF", 0⟩, ⟨.identifier, "main", 4⟩, ⟨.operator, "(", 9⟩,
    ⟨.operator, ")", 11⟩, ⟨.operator, ":", 13⟩, ⟨.identifier, "Integer", 17⟩, ⟨.operator, "DO", 25⟩,
    ⟨.operator, "RETURN", 28⟩, ⟨.integer, "6", 35⟩, ⟨.operator, "*", 36⟩, ⟨.integer, "7", 37⟩,
    ⟨.operator, ";", 39⟩, ⟨.operator, "END", 41⟩]
  have lexed : lex "DEF main(): Integer DO RETURN 6 * 7; END".toList = .ok tokens := by decide +kernel
  have lexed' : lex "DEF main ( ) :\n  Integer DO RETURN 6*7 ;\nEND".toList = .ok tokens' := by
    decide +kernel
  have read : parseSource tokens = .ok (answerAt 0 23 30 34) := by cbv
  have read' : parseSource tokens' = .ok (answerAt 0 28 35 37) := by cbv
  have text : parseText "DEF main(): Integer DO RETURN 6 * 7; END".toList = .ok (answerAt 0 23 30 34) := by
    rw [parseText, lexed, ← read]
  have text' : parseText "DEF main ( ) :\n  Integer DO RETURN 6*7 ;\nEND".toList =
      .ok (answerAt 0 28 35 37) := by
    rw [parseText, lexed', ← read']
  have alike := (layout_never_matters lexed lexed' (by decide)).2 _ _ text text'
  exact ⟨tokens, tokens', _, _, lexed, lexed', by decide, text, text', (alike.2 {} true _ _).2.1⟩

end Primer
