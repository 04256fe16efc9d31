import Primer.Catalog
import Primer.Check.Complaint
import Primer.Check.Expression
import Primer.Check.Program
import Primer.Check.Statement
import Primer.CommandLine.Arguments
import Primer.CommandLine.Host
import Primer.CommandLine.Path
import Primer.CommandLine.Program
import Primer.Fault
import Primer.Grammar.Expression
import Primer.Grammar.Parsed
import Primer.Grammar.Program
import Primer.Grammar.Rule
import Primer.Grammar.Statement
import Primer.Java
import Primer.Main
import Primer.Number.Decimal
import Primer.Number.Decimal.Text
import Primer.Number.Numeral
import Primer.Record
import Primer.Report
import Primer.Run.Evaluate
import Primer.Run.Program
import Primer.Run.Store
import Primer.Run.World
import Primer.Space
import Primer.Text.Blank
import Primer.Text.Digit
import Primer.Text.Escape
import Primer.Text.Lines
import Primer.Text.Printable
import Primer.Text.Quoted
import Primer.Token
import Primer.Token.Lexer
import Primer.Tree
import Primer.Tree.Outline
import Primer.Ty
import Primer.Value
import Primer.Value.Operators
import Primer.Value.Text
import Primer.Proofs.Outcome
import Primer.Proofs.Number.Digits
import Primer.Proofs.Number.Spelling
import Primer.Proofs.Number.Exact
import Primer.Proofs.Number.Quotient
import Primer.Proofs.Token.Literals
import Primer.Proofs.Grammar.Derivation
import Primer.Proofs.Grammar.Soundness
import Primer.Proofs.Grammar.Completeness
import Primer.Proofs.Token.AsWritten
import Primer.Proofs.Run.Conduct
import Primer.Proofs.Run.Frames
import Primer.Proofs.Space.Inside
import Primer.Proofs.Check.Judgement
import Primer.Proofs.Check.Settled
import Primer.Proofs.Check.Soundness
import Primer.Proofs.Value.Kinds
import Primer.Proofs.Run.Invariant
import Primer.Proofs.Run.Safety
import Primer.Proofs.Run.Checked
import Primer.Proofs.Run.Stable
import Primer.Proofs.Run.Closed
import Primer.Proofs.Run.Trace
import Primer.Proofs.Run.Told
import Primer.Proofs.Run.Calls
import Primer.Proofs.Tree.Unplaced
import Primer.Proofs.Token.Order
import Primer.Proofs.Grammar.Plain
import Primer.Proofs.Grammar.Lookahead
import Primer.Proofs.Grammar.Viable
import Primer.Proofs.Grammar.Refusal
import Primer.Proofs.Check.Unplaced
import Primer.Proofs.Java.Unplaced
import Primer.Proofs.Run.Essence
import Primer.Proofs.Layout
import Primer.Proofs.Tree.Bare
import Primer.Proofs.Check.Bare
import Primer.Proofs.Grammar.Nesting
import Primer.Proofs.Java.Grouping
import Primer.Proofs.Java.Lexemes
import Primer.Proofs.Java.Printed
import Primer.Proofs.Java.Precedence
import Primer.Proofs.Tree.Variables
import Primer.Proofs.Check.Bound
import Primer.Proofs.Run.Sites
import Primer.Proofs.Run.Owned
import Primer.Proofs.Run.Followed
import Primer.Proofs.Run.Numbered
import Primer.Proofs.Run.Bounds
import Primer.Proofs.Run.Variables
import Primer.Proofs.Token.Front
import Primer.Proofs.Token.Scan
import Primer.Proofs.Token.Cover
import Primer.Proofs.Token.Respacing
import Primer.Proofs.Run.Discipline
import Primer.Proofs.Check.Filled
import Primer.Proofs.Java.Writable
import Primer.Proofs.Token.Escaped
import Primer.Proofs.Run.Unreached
import Primer.Proofs.Tree.Fresh
import Primer.Proofs.Check.Complaints
import Primer.Proofs.Grammar.Orderly
import Primer.Proofs.Run.Watch
import Primer.Proofs.Run.Faults
import Primer.Proofs.Families
import Primer.Proofs.CommandLine.Modes
import Primer.Proofs.Value.Order
import Primer.Proofs.Check.Frames
import Primer.Proofs.Check.Once
import Primer.Proofs.Positions
import Primer.Proofs.Space.Lexical
import Primer.Proofs.Grammar.Progress
import Primer.Proofs.Tree.Solid
import Primer.Proofs.Grammar.Solid
import Primer.Proofs.Check.Solid
import Primer.Proofs.Java.Layout
import Primer.Proofs.Java.Indentation
