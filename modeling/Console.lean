import Console.Main
import Console.Completion
import Console.Proofs.Command.Action
import Console.Proofs.Range
import Console.Proofs.Range.Texts
import Console.Proofs.Buffer
import Console.Proofs.Buffer.Splicing
import Console.Proofs.Buffer.Numbering
import Console.Proofs.Command.Builtin
import Console.Proofs.Command.Dispatch
import Console.Proofs.Command.Recalling
import Console.Proofs.Pattern.Weight
import Console.Proofs.Pattern.Search
import Console.Proofs.Command.Replaying
import Console.Proofs.Command.Failing
import Console.Proofs.Command.Looking
import Console.Proofs.Text.Blank
import Console.Proofs.Command.Patterns
import Console.Proofs.Command.Captures
import Console.Proofs.Command.Registering
import Console.Proofs.Command.Recognition
import Console.Proofs.Command.Likeness
import Console.Proofs.Command.Overlooking
import Console.Proofs.Command.Logging
import Console.Proofs.Command.Trailing
import Console.Proofs.Command.Amending
import Console.Proofs.Command.Aliases
import Console.Proofs.Engine.Step
import Console.Proofs.Engine.Brackets
import Console.Proofs.Engine.Taking
import Console.Proofs.Engine.Nesting
import Console.Proofs.Engine.Unwinding
import Console.Proofs.Engine.Pending
import Console.Proofs.Engine.Assembly
import Console.Proofs.Storage
import Console.Proofs.History
import Console.Proofs.History.Saving
import Console.Proofs.Text.Lines
import Console.Proofs.Text.Utf8
import Console.Proofs.Text.Decimal
import Console.Proofs.History.Reloading
import Console.Proofs.SharedHistory
import Console.Proofs.Calculator.Grammar
import Console.Proofs.Calculator.Evaluation
import Console.Proofs.Calculator.Completeness
import Console.Proofs.Calculator.Unfinished
import Console.Proofs.Calculator.Printing
import Console.Proofs.Calculator.Sequencing
import Console.Proofs.Calculator.Integers
import Console.Proofs.Engine.Recording
import Console.Proofs.Engine.Termination
import Console.Proofs.Engine.Failing
import Console.Proofs.Engine.Looking
import Console.Proofs.Engine.Hearing
import Console.Proofs.Engine.Evaluating
import Console.Proofs.History.Windows
import Console.Proofs.Words
import Console.Proofs.Editor
import Console.Proofs.Input
import Console.Proofs.Command.Options
import Console.Proofs.Command.Listing
import Console.Proofs.Command.Addressing
import Console.Proofs.Command.Rereading
import Console.Proofs.Command.Playing
import Console.Proofs.Engine.SingleLines
import Console.Proofs.Engine.Addressing
import Console.Proofs.Engine.Resembling
import Console.Proofs.Engine.LineEnds
import Console.Proofs.Engine.Persisting
