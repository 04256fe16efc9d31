import Primer.Proofs.Check.Bare
import Primer.Proofs.Check.Complaints
import Primer.Proofs.Grammar.Orderly
import Primer.Proofs.Layout
import Primer.Proofs.Run.Checked
import Primer.Proofs.Run.Faults

/-!
# Each pass fails in its own way

A text is read, the tree is checked, and the program runs. Each of these passes can also fail in ways that are no
matter of the program: a number may be beyond what can be read, a slot may be settled already, a phrase may be
unknown, and a loop may bind a name where it is bound already.

**The law** (`passes_fail_in_their_own_families`): if no integer literal of a text is too long, and the stack of the
host has room for the passes, none of this comes to pass. Reading fails with an error at a place of the text, and never
for the length of a character literal. The check of what was read fails with a complaint. A run, whether or not of a
checked tree, fails with a fault that belongs to a family, or at a moment when an integer was to be turned to text
that is too long for it. The variable of a loop is always new to its scope.

The room on the stack is a condition on the host (`Host.RoomFor`), since the passes that read, check and write trees
have no fault to end with when it runs out. A run has one, and it belongs to a family. A text is a list of characters
in the sense of Unicode, so it has no halves of surrogate pairs in it.

The laws of the three passes meet in the fresh tree: reading gives it (`parseText_orderly`), the check complains
about it (`complains_checkSource`), and the run keeps to it (`Watch.program_regular`). A checked tree is not fresh, but
it is once its slots are empty, and a run sees no slots.
-/

namespace Primer

open CommandLine (rootWorld)

/-- That the stack of a host has room for all passes over a text: to read it, to check what was read, and to write
what was checked. -/
structure Host.RoomFor (h : Host) (text : List Char) : Prop where
  reads : h.reads text = true
  checks : ∀ s, parseText text = .ok s → h.checks s = true
  writes : ∀ s needsMain, parseText text = .ok s →
    h.writes (checkSource {} needsMain rootWorld.1.space rootWorld.2 s).tree = true

namespace Host.RoomFor

variable {h : Host} {text : List Char} {s : Source}

theorem parse_eq (room : h.RoomFor text) : h.parse text = some (parseText text) :=
  if_pos room.reads

theorem check_eq (room : h.RoomFor text) (read : parseText text = .ok s) (needsMain : Bool) (space : Space)
    (outer : ScopeId) : h.check needsMain space outer s = some (checkSource {} needsMain space outer s) :=
  if_pos (room.checks s read)

theorem java_eq (room : h.RoomFor text) (read : parseText text = .ok s) (needsMain : Bool) :
    let tree := (checkSource {} needsMain rootWorld.1.space rootWorld.2 s).tree
    h.java tree = some (Java.source tree) :=
  if_pos (room.writes s needsMain read)

end Host.RoomFor

/-! ## Runs -/

/-- That a watched run stopped because an integer was to be turned to text that is too long for it. -/
def Watch.StoppedWriting (watched : EStateM.Result Stopped World Value) : Prop :=
  ∃ moment w, watched = .error ⟨.fault .unwritableInteger, moment⟩ w ∧ moment.WritesTooLong

/-- A checked tree is as fresh as the one it was made of, once its slots are empty. -/
theorem Source.Fresh.bare_checkSource {s : Source} (fresh : s.Fresh) (catalog : Catalog) (needsMain : Bool)
    (space : Space) (outer : ScopeId) : (checkSource catalog needsMain space outer s).tree.bare.Fresh := by
  rw [Check.bare_checkSource, fresh.bare_eq]
  exact fresh

/-- How a run of a fresh program ends, over the root scope, and what a watch has to say about it. -/
theorem Watch.program_ends {s : Source} (fresh : s.bare.Fresh) (fuel calls : Nat) :
    match Run.program fuel calls rootWorld.2 s rootWorld.1 with
    | .ok v _ => v.IsPlain
    | .error (.fault f) _ => (∃ family, f.family? = some family) ∨
      f = .unwritableInteger ∧ StoppedWriting (program fuel calls rootWorld.2 s rootWorld.1)
    | .error .outOfFuel _ => True := by
  have ends := program_regular fuel calls rootWorld.2 fresh rootWorld.1 rootWorld_stocked
  rw [← program_erases fuel calls rootWorld.2 s rootWorld.1]
  unfold Run.Ends at ends
  match ran : program fuel calls rootWorld.2 s rootWorld.1 with
  | .ok v w =>
    rw [ran] at ends
    exact ends.1
  | .error ⟨.fault f, moment⟩ w =>
    rw [ran] at ends
    rcases ends with named | ⟨rfl, written⟩
    · exact .inl (Option.isSome_iff_exists.mp named)
    · exact .inr ⟨rfl, moment, w, rfl, written⟩
  | .error ⟨.outOfFuel, _⟩ _ => trivial

-- The square of a long integer can be computed, but not written.
example :
    let long : Expr := .literal (.int (Nat.pow 10 2200)) 0
    Run.fault? (Run.program 9 1 rootWorld.2
      { fields := []
        methods := [{
          name := "main", params := [], resultTypeName := some "String", offset := 0
          body := [.ret (.binary .add (.literal (.str "n = ") 0) (.binary .mul long long 0) 0) 0] }] }
      rootWorld.1) = some .unwritableInteger := by
  decide +kernel

/-! ## Loop variables -/

/-- A run can always bind the variable of a loop. -/
theorem Run.bind_child_eq_ok (scope : ScopeId) (name : String) (x : Value) (w : World) :
    ∃ w', (child scope >>= fun inner => Run.bind inner name x) w = .ok () w' := by
  obtain ⟨space, store, bodies, methods⟩ := w
  have free := space.holdsVariable_child scope name
  change ∃ w', Run.bind (space.child scope).2 name x ⟨(space.child scope).1, store, bodies, methods⟩ = .ok () w'
  dsimp only [Run.bind]
  rw [if_neg (ne_true_of_eq_false free)]
  exact ⟨_, rfl⟩

/-! ## All passes -/

/-- **Families.** On a host with room for it, a text without integers that are too long is read as a program or refused
with an error of texts; the program passes its check or is complained about; and a run of it, checked or not and
whatever its bounds, fails with a fault of a family, or at a moment when an integer too long for it was to be written. A
watch on the run tells the moment, and changes nothing about the run. -/
theorem passes_fail_in_their_own_families (h : Host) {text : List Char} (readable : Readable text)
    (room : h.RoomFor text) :
    (∃ read, h.parse text = some read ∧ ∀ failure, read = .error failure →
      ∃ e, failure = .error e ∧ e.issue ≠ .grammatical .characterLength) ∧
    (∀ s, h.parse text = some (.ok s) → ∀ needsMain, ∃ c,
      h.check needsMain rootWorld.1.space rootWorld.2 s = some c ∧
      (∀ problem, c.result = .error problem → ∃ complaint offset, problem = .complaint complaint offset) ∧
      ∀ t ∈ [s, c.tree], ∀ fuel calls,
        let ran := Run.program fuel calls rootWorld.2 t rootWorld.1
        let watched := Watch.program fuel calls rootWorld.2 t rootWorld.1
        Watch.forget watched = ran ∧ ∀ f, Run.fault? ran = some f →
          (∃ family, f.family? = some family) ∨ f = .unwritableInteger ∧ Watch.StoppedWriting watched) ∧
    (∀ (space : Space) scope name,
      ((space.child scope).1.declareVariable? (space.child scope).2 name .integer).isSome) ∧
    ∀ scope name x w, ∃ w', (Run.child scope >>= fun inner => Run.bind inner name x) w = .ok () w' := by
  have orderly := parseText_orderly readable
  refine ⟨⟨_, room.parse_eq, ?_⟩, ?_, fun space scope name => space.declareVariable?_child_isSome scope name .integer,
    Run.bind_child_eq_ok⟩
  · intro failure refused
    rw [refused] at orderly
    exact orderly
  · intro s parsed needsMain
    rw [room.parse_eq] at parsed
    have read := Option.some.inj parsed
    rw [read] at orderly
    refine ⟨_, room.check_eq read needsMain _ _, fun problem failed => ?_, fun t isTree fuel calls => ?_⟩
    · have complains := complains_checkSource orderly {} needsMain rootWorld.1.space rootWorld.2
      have isComplaint := complains.of_error failed
      cases problem with
      | complaint complaint offset => exact ⟨complaint, offset, rfl⟩
      | _ => exact isComplaint.elim
    · refine ⟨Watch.program_erases fuel calls rootWorld.2 t rootWorld.1, fun f failed => ?_⟩
      have fresh : t.bare.Fresh := by
        rcases List.mem_pair.mp isTree with rfl | rfl
        · exact orderly.bare_eq.symm ▸ orderly
        · exact orderly.bare_checkSource {} needsMain rootWorld.1.space rootWorld.2
      have ends := Watch.program_ends fresh fuel calls
      match ran : Run.program fuel calls rootWorld.2 t rootWorld.1 with
      | .error (.fault f') w =>
        rw [ran] at failed ends
        cases failed
        exact ends
      | .ok v w =>
        rw [ran] at failed
        cases failed
      | .error .outOfFuel w =>
        rw [ran] at failed
        cases failed

/-- A text that divides by zero. -/
def quotientText : String :=
  "DEF main(): Integer DO RETURN 1 / 0; END"

/-- The program of that text. -/
def quotient : Source where
  fields := []
  methods := [{
    name := "main", params := [], resultTypeName := some "Integer", offset := 0
    body := [.ret (.binary .div (.literal (.int 1) 30) (.literal (.int 0) 34) 30) 23] }]

theorem lex_quotientText : lex quotientText.toList = .ok [⟨.operator, "DEF", 0⟩, ⟨.identifier, "main", 4⟩,
    ⟨.operator, "(", 8⟩, ⟨.operator, ")", 9⟩, ⟨.operator, ":", 10⟩, ⟨.identifier, "Integer", 12⟩,
    ⟨.operator, "DO", 20⟩, ⟨.operator, "RETURN", 23⟩, ⟨.integer, "1", 30⟩, ⟨.operator, "/", 32⟩,
    ⟨.integer, "0", 34⟩, ⟨.operator, ";", 35⟩, ⟨.operator, "END", 37⟩] := by
  decide +kernel

theorem parseText_quotientText : parseText quotientText.toList = .ok quotient := by
  rw [parseText, lex_quotientText]
  cbv

theorem readable_quotientText : Readable quotientText.toList := by
  intro tokens lexed
  cases lex_quotientText.symm.trans lexed
  unfold Token.Readable
  decide +kernel

theorem quotient_passes : (checkSource {} true rootWorld.1.space rootWorld.2 quotient).result = .ok () := by
  decide +kernel

/-- A host whose stack has room for short texts and small programs only. -/
def smallHost : Host where
  reads text := text.length ≤ 80
  checks s := s.methods.length ≤ 3
  writes s := s.methods.length ≤ 3
  calls := 1

theorem smallHost_roomFor_quotientText : smallHost.RoomFor quotientText.toList where
  reads := by decide
  checks s read := by
    cases parseText_quotientText.symm.trans read
    rfl
  writes s needsMain read := by
    cases parseText_quotientText.symm.trans read
    cases needsMain <;> decide +kernel

/-- A program comes through all passes but the last, and the fault that ends its run belongs to a family. -/
theorem quotient_fails_in_its_family :
    Readable quotientText.toList ∧ smallHost.RoomFor quotientText.toList ∧
      smallHost.parse quotientText.toList = some (.ok quotient) ∧
      ∃ c, smallHost.check true rootWorld.1.space rootWorld.2 quotient = some c ∧ c.result = .ok () ∧
        ∃ f, Run.fault? (Run.program 9 1 rootWorld.2 c.tree rootWorld.1) = some f ∧ f = .divisionByZero ∧
          ((∃ family, f.family? = some family) ∨
            f = .unwritableInteger ∧ Watch.StoppedWriting (Watch.program 9 1 rootWorld.2 c.tree rootWorld.1)) := by
  have room := smallHost_roomFor_quotientText
  have parsed : smallHost.parse quotientText.toList = some (.ok quotient) := by
    rw [room.parse_eq, parseText_quotientText]
  obtain ⟨c, checked, -, runs⟩ :=
    (passes_fail_in_their_own_families smallHost readable_quotientText room).2.1 _ parsed true
  cases (room.check_eq parseText_quotientText true _ _).symm.trans checked
  have failed : Run.fault? (Run.program 9 1 rootWorld.2
      (checkSource {} true rootWorld.1.space rootWorld.2 quotient).tree rootWorld.1) = some .divisionByZero := by
    decide +kernel
  refine ⟨readable_quotientText, room, parsed, _, checked, quotient_passes, _, failed, rfl, ?_⟩
  exact (runs _ (List.mem_pair.mpr (.inr rfl)) 9 1).2 _ failed

end Primer
