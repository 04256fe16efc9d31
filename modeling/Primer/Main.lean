import Primer.CommandLine.Program

/-!
# The executable

Reads the file that the arguments name, and writes what the command line says of it.
-/

namespace Primer.CommandLine

/-- What the system says of a file that could not be read. -/
def fileCause : IO.Error → String
  | .noFileOrDirectory _ _ details => details
  | .inappropriateType _ _ details => details
  | .permissionDenied _ _ details => details
  | e => toString e

/-- What can be read from a path. -/
def contentOf (path : String) : IO (Except String ByteArray) := do
  try
    return .ok (← IO.FS.readBinFile path)
  catch e =>
    return .error (fileCause e)

/-- Writes what a command line wrote, and gives its exit status. -/
def finish (t : Transcript) : IO UInt32 := do
  IO.print t.output
  IO.eprint t.errors
  match t.outcome with
  | .exit status => return status.toUInt32
  | .idle => return 0
  | .crash _ => return 1

/-- What the command line does with its arguments. -/
def answer (argv : List String) : IO Transcript := do
  if argv.isEmpty then return { output := introduction, outcome := .idle }
  match Options.ofArguments argv with
  | .error e => return e.transcript
  | .ok options =>
    let path := (Path.ofText options.program).text
    return useFile {} ampleFuel options path (← contentOf path)

end Primer.CommandLine

/-- The command line. -/
def main (argv : List String) : IO UInt32 := do
  Primer.CommandLine.finish (← Primer.CommandLine.answer argv)
