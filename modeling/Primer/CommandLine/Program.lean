import Primer.CommandLine.Arguments
import Primer.CommandLine.Host
import Primer.CommandLine.Path

/-!
# The command line

A program is read from a file and checked; then it is run, or written as Java, or neither. Whatever is
wrong is reported on the error stream, and the exit status says whether something was. The host sets bounds to each of
these passes, and draws the places that a report points at.
-/

namespace Primer.CommandLine

/-- What ended the command line without an exit status. It is out of fuel when a run does not end, and also when the
stack of the host is used up. -/
inductive Crash where
  | unfitPath
  | undecodable
  | unreadableNumber
  | unwritableInteger
  | unfitTree
  | outOfFuel
deriving DecidableEq

/-- How the command line ended: with a status, without having been asked for anything, or not as it
should. -/
inductive Outcome where
  | exit (status : Nat)
  | idle
  | crash (c : Crash)
deriving DecidableEq

/-- What the command line wrote to its two streams, and how it ended. -/
structure Transcript where
  output : String := ""
  errors : String := ""
  outcome : Outcome

/-- How the command line is called. -/
def usage : String :=
  "usage: plc [-h] [-c] [-t] [-v] program\n"

/-- The answer to a call without arguments. -/
def introduction : String :=
  "This is the driver for the PLC teaching language.\n\n" ++ usage ++ "\n\nFor example:\n\n" ++
    "    plc program.plc\n\n" ++
    "will run program.plc if possible, or else try to explain why not.\n\n" ++
    "    plc -t program.plc\n\n" ++
    "will print the equivalent Java program instead.\n"

/-- The answer to a request for help. -/
def help : String :=
  usage ++ "\nParser, checker, and reference interpreter for the PLC teaching language.\n\n" ++
    "positional arguments:\n" ++
    "  program          path to a program, e.g. examples/hello.plc\n\n" ++
    "options:\n" ++
    "  -h, --help       show this help message and exit\n" ++
    "  -c, --check      Check the program but do not actually run it.\n" ++
    "  -t, --translate  Translate the checked program into Java on standard output.\n" ++
    "  -v, --verbose    Say what is happening along the way.\n"

/-- Every line break as a line feed. -/
def plainLines : List Char → List Char
  | [] => []
  | '\r' :: '\n' :: cs => '\n' :: plainLines cs
  | '\r' :: cs => '\n' :: plainLines cs
  | c :: cs => c :: plainLines cs

/-- The world in which a program is run or checked: one scope, which binds the function `print`. -/
def rootWorld : World × ScopeId :=
  World.rootScope {}

/-- The end of a command line that reports an issue. -/
def reported (h : Host) (r : Report) (said : String) (i : Issue) (output : String := "") : Transcript :=
  { output, errors := said ++ (r.add i).complaints h.draw, outcome := .exit 1 }

/-- Runs a checked program. -/
def runChecked (h : Host) (fuel : Nat) (r : Report) (said : String) (path : String) (s : Source) : Transcript :=
  let said := said ++ r.info ["Run", path]
  let (world, scope) := rootWorld
  match runSource fuel scope s h.calls world with
  | .ok .nil w => { output := w.store.output, errors := said, outcome := .exit 0 }
  | .ok v w =>
    match v.display? with
    | some text => { output := (w.store.print text).output, errors := said, outcome := .exit 0 }
    | none => { output := w.store.output, errors := said, outcome := .crash .unwritableInteger }
  | .error (.fault f) w =>
    match f.family? with
    | some family => reported h r said (Issue.ofFault family f.message) w.store.output
    | none => { output := w.store.output, errors := said, outcome := .crash .unwritableInteger }
  | .error .outOfFuel w => { output := w.store.output, errors := said, outcome := .crash .outOfFuel }

/-- Does what the options ask for with a program that was checked. -/
def useChecked (h : Host) (fuel : Nat) (options : Options) (r : Report) (said : String) (path : String)
    (s : Source) : Transcript :=
  if options.check then { errors := said ++ "Looks plausible to me.\n", outcome := .exit 0 }
  else if options.translate then
    match h.java s with
    | none => { errors := said, outcome := .crash .outOfFuel }
    | some (.ok text) => { output := text ++ "\n", errors := said, outcome := .exit 0 }
    | some (.error _) => { errors := said, outcome := .crash .unfitTree }
  else runChecked h fuel r said path s

/-- Does what the options ask for with the text of a program. -/
def useText (h : Host) (fuel : Nat) (options : Options) (path : String) (text : List Char) : Transcript :=
  let r : Report := { talkative := options.verbosity ≠ 0 }
  let said := r.info ["Parse", path]
  match h.parse text with
  | none => { errors := said, outcome := .crash .outOfFuel }
  | some (.error (.error e)) => reported h r said (Issue.ofTextError text path e.issue.message e.offset)
  | some (.error _) => { errors := said, outcome := .crash .unreadableNumber }
  | some (.ok s) =>
    let said := said ++ r.info ["Analyze", path]
    let (world, scope) := rootWorld
    match h.check true world.space scope s with
    | none => { errors := said, outcome := .crash .outOfFuel }
    | some ⟨_, _, .error (.complaint c offset)⟩ => reported h r said (Issue.ofComplaint text c.message offset)
    | some ⟨_, _, .error _⟩ => { errors := said, outcome := .crash .unfitTree }
    | some ⟨_, s, .ok ()⟩ => useChecked h fuel options r said path s

/-- Does what the options ask for with what was read from the file of the program. A text with a null
character in it is no path. -/
def useFile (h : Host) (fuel : Nat) (options : Options) (path : String) (content : Except String ByteArray) :
    Transcript :=
  if path.toList.contains '\x00' then { outcome := .crash .unfitPath }
  else match content with
  | .error cause => reported h { talkative := options.verbosity ≠ 0 } "" (Issue.ofFile path cause)
  | .ok bytes =>
    match String.fromUTF8? bytes with
    | none => { outcome := .crash .undecodable }
    | some text => useText h fuel options path (plainLines text.toList)

/-- The answer to arguments that do not name a program to work with. -/
def Ending.transcript : Ending → Transcript
  | help => { output := CommandLine.help, outcome := .exit 0 }
  | usage e => { errors := CommandLine.usage ++ "plc: error: " ++ e.message ++ "\n", outcome := .exit 2 }

/-- The whole command line, in a directory. -/
def runIn (fuel : Nat) (d : Directory) (argv : List String) (h : Host := {}) : Transcript :=
  if argv.isEmpty then { output := introduction, outcome := .idle }
  else match Options.ofArguments argv with
    | .error e => e.transcript
    | .ok options =>
      let path := Path.ofText options.program
      useFile h fuel options path.text ((d.read path).mapError FileIssue.message)

end Primer.CommandLine
