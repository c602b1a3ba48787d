import MiniLisp.Atom
import MiniLisp.Call
import MiniLisp.CommandLine
import MiniLisp.CommandLine.Files
import MiniLisp.CommandLine.Options
import MiniLisp.Editor.Documents
import MiniLisp.Editor.Index
import MiniLisp.Editor.Report
import MiniLisp.Editor.Span
import MiniLisp.Editor.Word
import MiniLisp.Environment
import MiniLisp.Error
import MiniLisp.Evaluation
import MiniLisp.Event
import MiniLisp.Foreign
import MiniLisp.Function
import MiniLisp.Literal
import MiniLisp.Machine
import MiniLisp.Main
import MiniLisp.Numeral
import MiniLisp.Primitive
import MiniLisp.Program
import MiniLisp.Proofs.Atom
import MiniLisp.Proofs.Call
import MiniLisp.Proofs.Case
import MiniLisp.Proofs.Editor.Definitions
import MiniLisp.Proofs.Editor.Diagnostics
import MiniLisp.Proofs.Editor.Documents
import MiniLisp.Proofs.Editor.Formals
import MiniLisp.Proofs.Editor.Hover
import MiniLisp.Proofs.Editor.Index
import MiniLisp.Proofs.Editor.Span
import MiniLisp.Proofs.Editor.Word
import MiniLisp.Proofs.Environment
import MiniLisp.Proofs.Evaluation.Arithmetic
import MiniLisp.Proofs.Evaluation.Binding
import MiniLisp.Proofs.Evaluation.Bounds
import MiniLisp.Proofs.Evaluation.Calls
import MiniLisp.Proofs.Evaluation.Coupling
import MiniLisp.Proofs.Evaluation.Errors
import MiniLisp.Proofs.Evaluation.Forms
import MiniLisp.Proofs.Evaluation.LambdaIndependence
import MiniLisp.Proofs.Evaluation.LambdaNames
import MiniLisp.Proofs.Evaluation.Literals
import MiniLisp.Proofs.Evaluation.Relevance
import MiniLisp.Proofs.Evaluation.Restoration
import MiniLisp.Proofs.Evaluation.Rules
import MiniLisp.Proofs.Evaluation.Simulation
import MiniLisp.Proofs.Evaluation.Target
import MiniLisp.Proofs.Evaluation.Termination
import MiniLisp.Proofs.Function
import MiniLisp.Proofs.Line
import MiniLisp.Proofs.Machine
import MiniLisp.Proofs.Numeral
import MiniLisp.Proofs.Primitive
import MiniLisp.Proofs.Program.Concatenation
import MiniLisp.Proofs.Program.Forms
import MiniLisp.Proofs.Program.FunctionText
import MiniLisp.Proofs.Program.Recursion
import MiniLisp.Proofs.Program.Session
import MiniLisp.Proofs.Reading.Equality
import MiniLisp.Proofs.Reading.Grammar
import MiniLisp.Proofs.Reading.Layout
import MiniLisp.Proofs.Reading.RoundTrip
import MiniLisp.Proofs.Sexp
import MiniLisp.Proofs.Table
import MiniLisp.Reading
import MiniLisp.Settings
import MiniLisp.Sexp
import MiniLisp.Sexp.Build
import MiniLisp.SpecialForm
import MiniLisp.Table
import MiniLisp.Text.Blank
import MiniLisp.Text.Case.Lower
import MiniLisp.Text.Case.Mapping
import MiniLisp.Text.Case.Upper
import MiniLisp.Text.Digit
import MiniLisp.Text.Line
import MiniLisp.Text.Printable
import MiniLisp.Text.Quoted
import MiniLisp.Text.Ranges
import MiniLisp.Text.WordChar
import MiniLisp.Token
