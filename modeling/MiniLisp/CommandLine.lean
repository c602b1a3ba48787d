import MiniLisp.CommandLine.Files
import MiniLisp.CommandLine.Options
import MiniLisp.Program
import MiniLisp.Settings
import MiniLisp.Text.Line

/-! # The command line

The program as a whole: options are read from the command line, a program from a file or from
standard input, and results are written to a file or to standard output. What it needs of the system
around it is a parameter, so that the same program runs on the real one and on a directory of files
that is given. -/

namespace MiniLisp.CommandLine

/-- What the program uses of the system: standard input, and files by their paths. -/
structure System (M : Type → Type) where
  stdin : M String
  /-- The text of a file, with its own line ends. -/
  read (path : String) : M (Except FileError String)
  /-- Opens a file, and gives what writes a text to it. -/
  write (path : String) : M (Except FileError (String → M Unit))

/-- How the program ends. -/
inductive Ending where
  /-- After running, with a status. -/
  | status (n : Nat)
  /-- Before running, with a status. -/
  | exit (n : Nat)
  /-- Because a path is no path at all, or the results cannot be written. -/
  | failed (e : FileError)

/-- How the program ends, and what it wrote to standard output and to the log until then. -/
structure Result where
  ending : Ending
  stdout : String := ""
  stderr : String := ""

/-- The debug log of a machine. -/
def log (debug : Bool) (m : Machine) : String :=
  if debug then String.join (m.trace.reverse.map Event.line) else ""

namespace System

variable {M : Type → Type} [Monad M] (system : System M)

/-- The text of the program, with newlines for its line ends. A file name without characters stands
    for standard input. -/
def source (opts : Options) : M (Except FileError String) := do
  let text ← if opts.input.isEmpty then .ok <$> system.stdin else system.read opts.input
  return text.map fun text => String.ofList (Text.normalizeNewlines text.toList)

/-- Runs the text of a program. A file name without characters stands for standard output; another
    file is opened before the program runs. -/
def runSource (fuel : Nat) (opts : Options) (source : String) : M (Option Result) := do
  if opts.output.isEmpty then
    return (Program.run fuel opts.debug source {}).map fun (status, m) =>
      { ending := .status status, stdout := m.output, stderr := log opts.debug m }
  match ← system.write opts.output with
  | .error e => return some { ending := .failed e }
  | .ok write =>
    match Program.run fuel opts.debug source {} with
    | none => return none
    | some (status, m) =>
      write m.output
      return some { ending := .status status, stderr := log opts.debug m }

/-- Runs the program, with a given value of the variable that switches debug mode on. Reports have
    the mark in place of tracebacks, also the report of a file that cannot be read. -/
def run (fuel : Nat) (debug : Option String) (args : List String) : M (Option Result) := do
  match Options.parse Text.isDecimalDigit (Settings.debugDefault debug) args with
  | .error exit => return some { ending := .exit exit.status, stdout := exit.stdout }
  | .ok opts =>
    match ← system.source opts with
    | .error .nullInPath => return some { ending := .failed .nullInPath }
    | .error e =>
      let stdout := Program.report opts.debug e.message Program.tracebackMark
      return some { ending := .status 1, stdout := stdout }
    | .ok source => system.runSource fuel opts source

end System

/-! ## A directory as the system -/

/-- What the program is started with. -/
structure Start where
  args : List String
  stdin : String
  files : Files
  /-- The variable that switches debug mode on, if it is set. -/
  debug : Option String

/-- What the program leaves behind. -/
structure Finish extends Result where
  files : Files

/-- A system with a given standard input whose files are those of one directory. -/
def directorySystem (stdin : String) : System (StateM Files) where
  stdin := return stdin
  read path := return (← get).read path
  write path := return ((← get).writer path).map fun write text => set (write text)

/-- Runs the program in a directory. -/
def Start.run (fuel : Nat) (start : Start) : Option Finish :=
  let (result, files) := (directorySystem start.stdin).run fuel start.debug start.args start.files
  result.map fun result => { result with files := files }

end MiniLisp.CommandLine
