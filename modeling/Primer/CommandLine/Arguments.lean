import Primer.Text.Digit
import Primer.Text.Quoted

/-!
# Command-line arguments

One program and up to four flags, in any order. Short flags may be joined, a long flag may be cut short
as long as only one begins so, and after `--` everything is taken as it stands. Arguments are sorted out
first and then taken in order: the request for help wins when its turn comes, a value given to a flag
that takes none is an error when its turn comes, and only at the end is a missing program reported or,
if there is one, what was not understood.
-/

namespace Primer.CommandLine

/-- The flags. -/
inductive Flag where
  | help
  | check
  | translate
  | verbose
deriving DecidableEq

/-- All flags, in the order in which they are listed. -/
def flags : List Flag :=
  [.help, .check, .translate, .verbose]

namespace Flag

/-- The letter of a flag. -/
def letter : Flag → Char
  | help => 'h'
  | check => 'c'
  | translate => 't'
  | verbose => 'v'

/-- The long name of a flag. -/
def longName : Flag → String
  | help => "--help"
  | check => "--check"
  | translate => "--translate"
  | verbose => "--verbose"

/-- The short name of a flag. -/
def shortName (f : Flag) : String :=
  String.ofList ['-', f.letter]

/-- Both names of a flag, as errors show them. -/
def label (f : Flag) : String :=
  f.shortName ++ "/" ++ f.longName

/-- The flag with this letter. -/
def ofLetter? (c : Char) : Option Flag :=
  flags.find? fun f => f.letter == c

/-- The flag with this long name. -/
def ofLongName? (name : String) : Option Flag :=
  flags.find? fun f => f.longName == name

end Flag

/-- What is wrong with the arguments. -/
inductive UsageError where
  | missingProgram
  | unrecognized (args : List String)
  | ignoredValue (flag : Flag) (value : String)
  | ambiguous (arg : String) (candidates : List String)

/-- What is said about the arguments. -/
def UsageError.message : UsageError → String
  | missingProgram => "the following arguments are required: program"
  | unrecognized args => "unrecognized arguments: " ++ " ".intercalate args
  | ignoredValue flag value =>
    "argument " ++ flag.label ++ ": ignored explicit argument " ++ Text.quoted value
  | ambiguous arg candidates =>
    "ambiguous option: " ++ arg ++ " could match " ++ ", ".intercalate candidates

/-- What an argument in front of `--` is. Joined short flags are kept as the characters after the dash;
a long flag may come with a value. -/
inductive Argument where
  | plain
  | unknown
  | short (first : Flag) (rest : List Char)
  | long (flag : Flag) (value : Option String)

/-- Whether an argument looks like a negative number, with or without a point. Digits of any script
count, and one line end may follow. -/
def isNegativeNumber : List Char → Bool
  | '-' :: cs =>
    let cs := if cs.getLast? == some '\n' then cs.dropLast else cs
    match cs.dropWhile Text.isDecimalDigit with
    | [] => !cs.isEmpty
    | '.' :: fraction => !fraction.isEmpty && fraction.all Text.isDecimalDigit
    | _ => false
  | _ => false

/-- An argument with a dash in front that names no flag: a number or something with a blank inside is
taken as it stands. -/
def Argument.ofOther (arg : String) : Argument :=
  if isNegativeNumber arg.toList || arg.toList.contains ' ' then plain else unknown

/-- What an argument that begins with two dashes is. -/
def Argument.ofLong (arg : String) : Except UsageError Argument :=
  let name := String.ofList (arg.toList.takeWhile (· != '='))
  let value := match arg.toList.dropWhile (· != '=') with
    | [] => none
    | _ :: cs => some (String.ofList cs)
  match Flag.ofLongName? name with
  | some flag => .ok (long flag value)
  | none =>
    match flags.filter fun f => name.toList.isPrefixOf f.longName.toList with
    | [] => .ok (ofOther arg)
    | [flag] => .ok (long flag value)
    | several => .error (.ambiguous arg (several.map Flag.longName))

/-- What an argument is. -/
def Argument.classify (arg : String) : Except UsageError Argument :=
  match arg.toList with
  | '-' :: '-' :: _ => ofLong arg
  | '-' :: c :: rest =>
    match Flag.ofLetter? c with
    | some flag => .ok (short flag rest)
    | none => .ok (ofOther arg)
  | _ => .ok plain

/-- What the arguments ask for. -/
structure Options where
  program : String
  check : Bool := false
  translate : Bool := false
  verbosity : Nat := 0

/-- What has been taken from the arguments so far. -/
structure Taken where
  program : Option String := none
  check : Bool := false
  translate : Bool := false
  verbosity : Nat := 0
  extras : List String := []

/-- How taking the arguments can end early. -/
inductive Ending where
  | help
  | usage (e : UsageError)

/-- Takes flags in order, up to a request for help. -/
def Taken.flags (t : Taken) : List Flag → Except Ending Taken
  | [] => .ok t
  | .help :: _ => .error .help
  | .check :: fs => Taken.flags { t with check := true } fs
  | .translate :: fs => Taken.flags { t with translate := true } fs
  | .verbose :: fs => Taken.flags { t with verbosity := t.verbosity + 1 } fs

/-- The flags joined in one argument, from one of them on. What follows the last of them is taken for a
value, which no flag has. -/
def joined (first : Flag) : List Char → Except UsageError (List Flag)
  | [] => .ok [first]
  | c :: rest =>
    match Flag.ofLetter? c with
    | some flag => (joined flag rest).map (first :: ·)
    | none => .error (.ignoredValue first (String.ofList (c :: rest)))

/-- The flags of an argument with one dash. An equals sign next to the first letter is passed over, so
that letters after it are joined as well, but with nothing after it the flag has an empty value. -/
def shortFlags (first : Flag) : List Char → Except UsageError (List Flag)
  | ['='] => .error (.ignoredValue first "")
  | '=' :: rest => joined first rest
  | rest => joined first rest

/-- Takes an argument that stands in front of the last flag. -/
def Taken.argument (t : Taken) (arg : String) : Argument → Except Ending Taken
  | .plain =>
    match t.program with
    | none => .ok { t with program := some arg }
    | some _ => .ok { t with extras := t.extras ++ [arg] }
  | .unknown => .ok { t with extras := t.extras ++ [arg] }
  | .long flag none => t.flags [flag]
  | .long flag (some value) => .error (.usage (.ignoredValue flag value))
  | .short first rest =>
    match shortFlags first rest with
    | .error e => .error (.usage e)
    | .ok fs => t.flags fs

/-- Takes arguments in order. -/
def Taken.arguments (t : Taken) : List (String × Argument) → Except Ending Taken
  | [] => .ok t
  | (arg, a) :: rest =>
    match t.argument arg a with
    | .error e => .error e
    | .ok t => t.arguments rest

/-- Takes what follows the last flag. If the program is still to come it is the first argument here, and
the mark `--` next to it is dropped. -/
def Taken.rest (t : Taken) (plain : List String) (marked : Option (List String)) : Taken :=
  let tail := match marked with
    | none => []
    | some args => "--" :: args
  match t.program, plain, marked with
  | some _, _, _ => { t with extras := t.extras ++ plain ++ tail }
  | none, [arg], some args => { t with program := some arg, extras := t.extras ++ args }
  | none, arg :: more, _ => { t with program := some arg, extras := t.extras ++ more ++ tail }
  | none, [], some (arg :: args) => { t with program := some arg, extras := t.extras ++ args }
  | none, [], _ => { t with extras := t.extras ++ tail }

/-- Whether an argument is taken as it stands. -/
def Argument.isPlain : Argument → Bool
  | plain => true
  | _ => false

/-- Each argument with what it is. -/
def classifyAll : List String → Except UsageError (List (String × Argument))
  | [] => .ok []
  | arg :: args => do
    let a ← Argument.classify arg
    let rest ← classifyAll args
    return (arg, a) :: rest

/-- What the arguments ask for. -/
def Options.ofArguments (argv : List String) : Except Ending Options :=
  let front := argv.takeWhile (· != "--")
  let marked := match argv.dropWhile (· != "--") with
    | [] => none
    | _ :: args => some args
  match classifyAll front with
  | .error e => .error (.usage e)
  | .ok classified =>
    let tail := (classified.reverse.takeWhile fun a => a.2.isPlain).reverse
    let upToLast := classified.take (classified.length - tail.length)
    match Taken.arguments {} upToLast with
    | .error e => .error e
    | .ok t =>
      let t := t.rest (tail.map Prod.fst) marked
      match t.program, t.extras with
      | none, _ => .error (.usage .missingProgram)
      | some program, [] =>
        .ok { program, check := t.check, translate := t.translate, verbosity := t.verbosity }
      | some _, extras => .error (.usage (.unrecognized extras))

end Primer.CommandLine
