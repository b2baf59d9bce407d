import CommandLine.Command.Check
import CommandLine.Main
import CommandLine.Proofs.Command.Assembly
import CommandLine.Proofs.Command.Commutation
import CommandLine.Proofs.Command.Concatenation
import CommandLine.Proofs.Command.Failure
import CommandLine.Proofs.Command.Listing
import CommandLine.Proofs.Command.Literal
import CommandLine.Proofs.Command.Outcome
import CommandLine.Proofs.Command.WellFormed
import CommandLine.Proofs.Fuzz.Accounting
import CommandLine.Proofs.Fuzz.Corpus
import CommandLine.Proofs.Fuzz.Deadline
import CommandLine.Proofs.Fuzz.Line
import CommandLine.Proofs.Fuzz.Notices
import CommandLine.Proofs.Item.Tiling
import CommandLine.Proofs.Numeral.ShortestDigits
import CommandLine.Proofs.Numeral.WrittenDouble
import CommandLine.Proofs.ParseError.Caret
import CommandLine.Proofs.Plain.Coercion
import CommandLine.Proofs.Shell.BlankLines
import CommandLine.Proofs.Shell.Session
import CommandLine.Proofs.Tree.Coverage
import CommandLine.Proofs.Tree.Leaves
import CommandLine.Proofs.Tree.Persistence
import CommandLine.Proofs.Tree.Precision
import CommandLine.Proofs.Tree.QuotedString
import CommandLine.Proofs.Tree.Rendering
import CommandLine.Proofs.Tree.ValuePosition
import CommandLine.Proofs.Tree.Word
import CommandLine.Proofs.Value.Comparison
import CommandLine.Proofs.Value.Display
import CommandLine.Proofs.Text.Letter
import CommandLine.Proofs.Tree.Flag
import CommandLine.Proofs.Shell.Log
import CommandLine.Proofs.Fuzz.Extension
import CommandLine.Proofs.Fuzz.Attempt
import CommandLine.Proofs.Fuzz.Locality
