import Primer.Check.Program
import Primer.Grammar.Program
import Primer.Java
import Primer.Report
import Primer.Run.Program

/-!
# What is up to the host

Reading, checking and writing a program follow its phrases down to the innermost ones, so they need a stack that is
as deep as phrases are nested. How deep a stack there is, and how much of it a phrase takes, is up to the host: its
stack has room for a pass, or the pass is broken off. A run needs a stack too, but one that has used it up ends with a
fault of its own; of the host it has only how many calls may be nested.

The host also draws the pictures of places in a text.
-/

namespace Primer

/-- What the passes over a program leave to their host. By default there is always room. -/
structure Host where
  /-- Whether the stack has room to read a text. -/
  reads : List Char → Bool := fun _ => true
  /-- Whether the stack has room to check a program. -/
  checks : Source → Bool := fun _ => true
  /-- Whether the stack has room to write a program as Java. -/
  writes : Source → Bool := fun _ => true
  /-- How many calls may be nested in a run. -/
  calls : Nat := nestedCalls
  /-- The picture of a marked place. -/
  draw : Mark → String := Mark.picture

namespace Host

/-- Reads a program, unless the stack is used up. -/
def parse (h : Host) (text : List Char) : Option (Except ReadFailure Source) :=
  if h.reads text then some (parseText text) else none

/-- Checks a program in a scope, unless the stack is used up. -/
def check (h : Host) (needsMain : Bool) (space : Space) (outer : ScopeId) (s : Source) : Option (Checked Source) :=
  if h.checks s then some (checkSource {} needsMain space outer s) else none

/-- Writes a program as Java, unless the stack is used up. -/
def java (h : Host) (s : Source) : Option (Except JavaIssue String) :=
  if h.writes s then some (Java.source s) else none

end Host

end Primer
