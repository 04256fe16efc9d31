import Primer.Proofs.Families
import Primer.Proofs.Java.Writable

/-!
# One verdict in all modes

The command line reads and checks a program, and then it leaves it at that, or writes the program as Java, or runs
it. What it is asked for makes no difference before the program is accepted.

**The law** (`modes_give_one_verdict`): take a file whose bytes are a text without integers that are too long, and a
host whose stack has room for the passes over it. If its program is not accepted, all modes end with status 1, and the
same is said on the error stream and nothing on the other. If it is accepted, checking and translating end with status
0, and what is translated is the Java of the checked tree. A run of the program decides how the command line ends when
it is to run it: with status 1 after a fault of a family, with status 0 after a value, and with neither only where a
run does not end, or gave an integer that is too long to be written, or stopped where one was to be written.

The law holds however the host draws the places that a report points at, and however deep it lets calls nest.

The law of each pass (see the module on families) leaves the command line nothing to stumble over. What is left here
is which way it takes.
-/

namespace Primer.CommandLine

/-- What can be asked for: to check a program, to translate it, or to run it. -/
inductive Mode where
  | check
  | translate
  | run
deriving DecidableEq

/-- The options with a mode in place of the one they have. -/
def Options.setMode (o : Options) : Mode → Options
  | .check => { o with check := true, translate := false }
  | .translate => { o with check := false, translate := true }
  | .run => { o with check := false, translate := false }

/-- The report that the command line starts with. -/
def Options.report (o : Options) : Report :=
  { talkative := o.verbosity ≠ 0 }

theorem Options.report_setMode (o : Options) (mode : Mode) : (o.setMode mode).report = o.report := by
  cases mode <;> rfl

/-- A program as the command line checks it: over the root scope, with a main method. -/
abbrev checked (s : Source) : Checked Source :=
  checkSource {} true rootWorld.1.space rootWorld.2 s

/-- That a text is read as a program, and that program passes its check. -/
structure Accepted (text : List Char) (s : Source) : Prop where
  read : parseText text = .ok s
  passed : (checked s).result = .ok ()

variable {h : Host} {fuel : Nat} {o : Options} {path : String} {s : Source} {text : List Char}

/-! ## Before a program is accepted -/

theorem useText_of_unread {e : TextError} (room : h.RoomFor text) (refused : parseText text = .error (.error e)) :
    useText h fuel o path text =
      reported h o.report (o.report.info ["Parse", path]) (Issue.ofTextError text path e.issue.message e.offset) := by
  unfold useText
  rw [room.parse_eq, refused]
  rfl

/-- What is said before the result of a check is known. -/
def preamble (o : Options) (path : String) : String :=
  o.report.info ["Parse", path] ++ o.report.info ["Analyze", path]

theorem useText_of_complaint {c : Complaint} {offset : Nat} (room : h.RoomFor text) (read : parseText text = .ok s)
    (failed : (checked s).result = .error (.complaint c offset)) :
    useText h fuel o path text =
      reported h o.report (preamble o path) (Issue.ofComplaint text c.message offset) := by
  unfold useText
  rw [room.parse_eq, read]
  dsimp only [checked] at failed ⊢
  rw [room.check_eq read]
  generalize checkSource {} true rootWorld.1.space rootWorld.2 s = ended at failed
  obtain ⟨space, tree, result⟩ := ended
  cases failed
  rfl

/-- An accepted text is used as its checked tree. -/
theorem useText_of_accepted (room : h.RoomFor text) (accepted : Accepted text s) :
    useText h fuel o path text = useChecked h fuel o o.report (preamble o path) path (checked s).tree := by
  obtain ⟨read, passed⟩ := accepted
  unfold useText
  rw [room.parse_eq, read]
  dsimp only [checked] at passed ⊢
  rw [room.check_eq read]
  generalize checkSource {} true rootWorld.1.space rootWorld.2 s = ended at passed ⊢
  obtain ⟨space, tree, result⟩ := ended
  cases passed
  rfl

/-- A text that is not accepted is refused in all modes alike. -/
theorem useText_of_refused (room : h.RoomFor text) (readable : Readable text) (refused : ¬ ∃ s, Accepted text s) :
    ∃ errors, ∀ mode, useText h fuel (o.setMode mode) path text = { errors, outcome := .exit 1 } := by
  have alike : ∀ said i, (∀ mode, useText h fuel (o.setMode mode) path text = reported h o.report said i) →
      ∃ errors, ∀ mode, useText h fuel (o.setMode mode) path text = { errors, outcome := .exit 1 } :=
    fun said i same => ⟨said ++ (o.report.add i).complaints h.draw, same⟩
  have orderly := parseText_orderly readable
  cases read : parseText text with
  | error failure =>
    rw [read] at orderly
    obtain ⟨e, rfl, -⟩ := orderly
    apply alike (o.report.info ["Parse", path]) (Issue.ofTextError text path e.issue.message e.offset)
    intro mode
    rw [useText_of_unread room read, o.report_setMode]
  | ok s =>
    rw [read] at orderly
    have complains := complains_checkSource orderly {} true rootWorld.1.space rootWorld.2
    cases result : (checked s).result with
    | ok => exact absurd ⟨s, read, result⟩ refused
    | error problem =>
      have isComplaint := complains.of_error result
      cases problem with
      | complaint c offset =>
        apply alike (preamble o path) (Issue.ofComplaint text c.message offset)
        intro mode
        rw [useText_of_complaint room read result, preamble, o.report_setMode]
        rfl
      | _ => exact isComplaint.elim

/-! ## After a program is accepted -/

/-- How the command line ends when it runs a program, by how the run of the program ended and by what a watch on it
has to say. -/
structure RunVerdict (ran : EStateM.Result Stop World Value) (watched : EStateM.Result Stopped World Value)
    (outcome : Outcome) : Prop where
  failed : outcome = .exit 1 ↔ ∃ f family, Run.fault? ran = some f ∧ f.family? = some family
  ended : outcome = .exit 0 ↔ ∃ v shown w, ran = .ok v w ∧ v.display? = some shown
  endless : outcome = .crash .outOfFuel ↔ ∃ w, ran = .error .outOfFuel w
  others : outcome ∈ [.exit 1, .exit 0, .crash .outOfFuel] ∨ outcome = .crash .unwritableInteger ∧
    ((∃ n w, ran = .ok (.int n) w ∧ Nat.pow 10 Numeral.digitLimit ≤ n.natAbs) ∨ Watch.StoppedWriting watched)

section

variable {r : Report} {said : String} {tree : Source} {w : World}

/-- A run that gives a value ends well if the value has a text. -/
theorem runChecked_of_ok {v : Value} (ran : Run.program fuel h.calls rootWorld.2 tree rootWorld.1 = .ok v w) :
    (runChecked h fuel r said path tree).outcome =
      if v.display?.isSome then .exit 0 else .crash .unwritableInteger := by
  unfold runChecked
  dsimp only
  rw [Run.runSource_eq_program, ran]
  cases v with
  | nil => rfl
  | _ =>
    dsimp only
    split
    next written =>
      rw [written]
      rfl
    next textless =>
      rw [textless]
      rfl

theorem runChecked_of_fault {f : Fault}
    (ran : Run.program fuel h.calls rootWorld.2 tree rootWorld.1 = .error (.fault f) w) :
    (runChecked h fuel r said path tree).outcome =
      if f.family?.isSome then .exit 1 else .crash .unwritableInteger := by
  unfold runChecked
  dsimp only
  rw [Run.runSource_eq_program, ran]
  dsimp only
  split
  next named =>
    rw [named]
    rfl
  next unnamed =>
    rw [unnamed]
    rfl

theorem runChecked_of_outOfFuel
    (ran : Run.program fuel h.calls rootWorld.2 tree rootWorld.1 = .error .outOfFuel w) :
    (runChecked h fuel r said path tree).outcome = .crash .outOfFuel := by
  unfold runChecked
  dsimp only
  rw [Run.runSource_eq_program, ran]

/-- A run of a program that is fresh once its slots are empty gives the command line a verdict. -/
theorem runChecked_verdict (fresh : tree.bare.Fresh) :
    RunVerdict (Run.program fuel h.calls rootWorld.2 tree rootWorld.1)
      (Watch.program fuel h.calls rootWorld.2 tree rootWorld.1) (runChecked h fuel r said path tree).outcome := by
  have ends := Watch.program_ends fresh fuel h.calls
  match ran : Run.program fuel h.calls rootWorld.2 tree rootWorld.1 with
  | .ok v w =>
    rw [ran] at ends
    rw [runChecked_of_ok ran]
    cases written : v.display? with
    | some shown => exact ⟨by simp [Run.fault?], by simp [written], by simp, .inl (by simp)⟩
    | none =>
      obtain ⟨n, rfl, long⟩ := ends.eq_int_of_display?_eq_none written
      exact ⟨by simp [Run.fault?], by simp [written], by simp, .inr ⟨by simp, .inl ⟨n, w, rfl, long⟩⟩⟩
  | .error (.fault f) w =>
    rw [ran] at ends
    rw [runChecked_of_fault ran]
    rcases ends with ⟨family, named⟩ | ⟨rfl, stopped⟩
    · exact ⟨by simp [Run.fault?, named], by simp [named], by simp [named], .inl (by simp [named])⟩
    · exact ⟨by simp [Run.fault?, Fault.family?], by simp [Fault.family?], by simp [Fault.family?],
        .inr ⟨rfl, .inr stopped⟩⟩
  | .error .outOfFuel w =>
    rw [runChecked_of_outOfFuel ran]
    exact ⟨by simp [Run.fault?], by simp, by simp, .inl (by simp)⟩

theorem useChecked_translate {java : String} (translated : h.java tree = some (.ok java)) :
    useChecked h fuel (o.setMode .translate) r said path tree =
      { output := java ++ "\n", errors := said, outcome := .exit 0 } := by
  unfold useChecked
  rw [translated]
  rfl

end

/-- What is accepted can be written as Java. -/
theorem Accepted.exists_java (accepted : Accepted text s) : ∃ java, Java.source (checked s).tree = .ok java :=
  Java.exists_source_eq_ok_iff.mpr (Check.settled_checkSource accepted.passed).writable

theorem Accepted.fresh (accepted : Accepted text s) (readable : Readable text) : s.Fresh := by
  have orderly := parseText_orderly readable
  rw [accepted.read] at orderly
  exact orderly

/-! ## Files -/

theorem useFile_of_decoded {bytes : ByteArray} {content : String} (fit : path.toList.contains '\x00' = false)
    (decoded : String.fromUTF8? bytes = some content) :
    useFile h fuel o path (.ok bytes) = useText h fuel o path (plainLines content.toList) := by
  unfold useFile
  rw [if_neg (ne_true_of_eq_false fit)]
  dsimp only
  rw [decoded]

/-- **Modes.** On a host with room for the passes over a text without integers that are too long, checking, translating
and running its program agree on whether it is accepted. If not, all three end with status 1 and say the same. If it
is, checking ends well and is silent, translating ends well with the Java of the checked tree, and running ends by how
the run ended. -/
theorem modes_give_one_verdict (h : Host) (fuel : Nat) (o : Options) (path : String) {bytes : ByteArray}
    {content : String} (fit : path.toList.contains '\x00' = false) (decoded : String.fromUTF8? bytes = some content)
    (readable : Readable (plainLines content.toList)) (room : h.RoomFor (plainLines content.toList)) :
    let text := plainLines content.toList
    let use := fun mode => useFile h fuel (o.setMode mode) path (.ok bytes)
    ((use .check).outcome = .exit 0 ↔ ∃ s, Accepted text s) ∧
    ((use .translate).outcome = .exit 0 ↔ ∃ s, Accepted text s) ∧
    ((¬ ∃ s, Accepted text s) → ∃ errors, ∀ mode, use mode = { output := "", errors, outcome := .exit 1 }) ∧
    ∀ s, Accepted text s →
      (use .check).output = "" ∧
      (∃ java, Java.source (checked s).tree = .ok java ∧ (use .translate).output = java ++ "\n") ∧
      let ran := Run.program fuel h.calls rootWorld.2 (checked s).tree rootWorld.1
      let watched := Watch.program fuel h.calls rootWorld.2 (checked s).tree rootWorld.1
      Watch.forget watched = ran ∧ RunVerdict ran watched (use .run).outcome := by
  intro text use
  have same : ∀ mode, use mode = useText h fuel (o.setMode mode) path text :=
    fun mode => useFile_of_decoded fit decoded
  have refusal : (¬ ∃ s, Accepted text s) → ∃ errors, ∀ mode, use mode = { errors, outcome := .exit 1 } := by
    intro refused
    simp only [same]
    exact useText_of_refused room readable refused
  have accepted_of_exit : ∀ mode, (use mode).outcome = .exit 0 → ∃ s, Accepted text s := by
    intro mode ended
    by_contra refused
    obtain ⟨errors, alike⟩ := refusal refused
    rw [alike mode] at ended
    cases ended
  have translation : ∀ s, Accepted text s → ∃ java, Java.source (checked s).tree = .ok java ∧
      use .translate = { output := java ++ "\n", errors := preamble (o.setMode .translate) path, outcome := .exit 0 } := by
    intro s accepted
    obtain ⟨java, written⟩ := accepted.exists_java
    have translated := (room.java_eq accepted.read true).trans (congrArg some written)
    exact ⟨java, written, by rw [same, useText_of_accepted room accepted, useChecked_translate translated]⟩
  refine ⟨⟨accepted_of_exit .check, ?_⟩, ⟨accepted_of_exit .translate, ?_⟩, refusal, fun s accepted => ⟨?_, ?_, ?_⟩⟩
  · rintro ⟨s, accepted⟩
    rw [same, useText_of_accepted room accepted]
    rfl
  · rintro ⟨s, accepted⟩
    obtain ⟨java, -, translated⟩ := translation s accepted
    rw [translated]
  · rw [same, useText_of_accepted room accepted]
    rfl
  · obtain ⟨java, written, translated⟩ := translation s accepted
    exact ⟨java, written, by rw [translated]⟩
  · refine ⟨Watch.program_erases fuel h.calls rootWorld.2 _ rootWorld.1, ?_⟩
    rw [same, useText_of_accepted room accepted]
    exact runChecked_verdict ((accepted.fresh readable).bare_checkSource {} true rootWorld.1.space rootWorld.2)

/-- A program that divides by zero passes its check and can be translated, and its run fails. -/
theorem quotientText_in_all_modes :
    let use := fun mode =>
      useFile smallHost 9 (Options.setMode { program := "q.plc" } mode) "q.plc" (.ok quotientText.toUTF8)
    "q.plc".toList.contains '\x00' = false ∧ String.fromUTF8? quotientText.toUTF8 = some quotientText ∧
      Readable (plainLines quotientText.toList) ∧ smallHost.RoomFor (plainLines quotientText.toList) ∧
      (use .check).outcome = .exit 0 ∧ (use .check).output = "" ∧ (use .translate).outcome = .exit 0 ∧
      (use .run).outcome = .exit 1 := by
  intro use
  have decoded : String.fromUTF8? quotientText.toUTF8 = some quotientText :=
    dif_pos quotientText.isValidUTF8
  have plain : plainLines quotientText.toList = quotientText.toList := by decide +kernel
  have readable : Readable (plainLines quotientText.toList) := plain.symm ▸ readable_quotientText
  have room : smallHost.RoomFor (plainLines quotientText.toList) := plain.symm ▸ smallHost_roomFor_quotientText
  have accepted : Accepted (plainLines quotientText.toList) quotient :=
    ⟨plain.symm ▸ parseText_quotientText, quotient_passes⟩
  have fit : "q.plc".toList.contains '\x00' = false := by decide
  obtain ⟨checks, translates, -, used⟩ :=
    modes_give_one_verdict smallHost 9 { program := "q.plc" } "q.plc" fit decoded readable room
  obtain ⟨silent, -, -, verdict⟩ := used quotient accepted
  have failed : Run.fault? (Run.program 9 1 rootWorld.2 (checked quotient).tree rootWorld.1) =
      some .divisionByZero := by
    decide +kernel
  refine ⟨fit, decoded, readable, room, checks.mpr ⟨_, accepted⟩, silent, translates.mpr ⟨_, accepted⟩, ?_⟩
  apply verdict.failed.mpr
  exact ⟨.divisionByZero, "DivisionByZero", failed, rfl⟩

end Primer.CommandLine
