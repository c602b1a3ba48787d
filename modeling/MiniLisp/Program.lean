import MiniLisp.Evaluation
import MiniLisp.Reading

/-! # Programs

A program is a text whose forms are evaluated one after the other, each of them before the next one
is read. Definitions stay in the machine from one program to the next. -/

namespace MiniLisp

namespace Program

/-- The values of the forms of tokens up to the first error, in reading or in evaluation. -/
def valuesOfTokens (fuel : Nat) (toks : List Token) (m : Machine) :
    Option ((List Sexp × Option Error) × Machine) :=
  match _h : Reading.form toks with
  | (.error e, _) => some (([], some e), m)
  | (.ok none, _) => some (([], none), m)
  | (.ok (some form), rest) =>
    match evaluate fuel form m with
    | none => none
    | some (.error e, m) => some (([], some e), m)
    | some (.ok value, m) =>
      match valuesOfTokens fuel rest m with
      | none => none
      | some ((values, failure), m) => some ((value :: values, failure), m)
termination_by toks.length
decreasing_by exact Reading.length_lt_of_resume _h

/-- The values of the forms of a program up to the first error, in reading or in evaluation. -/
def values (fuel : Nat) (source : String) (m : Machine) :
    Option ((List Sexp × Option Error) × Machine) :=
  valuesOfTokens fuel (Token.lex source) m

/-- The value of the last form of a program, `NIL` if it has none. -/
def value (fuel : Nat) (source : String) : Eval Sexp := fun m =>
  match values fuel source m with
  | none => none
  | some ((_, some e), m) => some (.error e, m)
  | some ((vs, none), m) => some (.ok (vs.getLastD .nil), m)

/-! ## Running with reports -/

/-- The lines that tell where an error arose, given the event that is recorded with it. What they say
    is up to the system that runs the program. -/
abbrev Traceback := Event → String

/-- One line that stands for every traceback. -/
def tracebackMark : String := "<traceback>\n"

/-- The same traceback for all errors. -/
def Traceback.mark : Traceback := fun _ => tracebackMark

/-- The report of an error: with its message and traceback in debug mode, and else a hint how to get
    them. -/
def report (debug : Bool) (message traceback : String) : String :=
  "Error occurred!\n" ++
    (if debug then message ++ "\n" ++ traceback else "Specify '-d' to debug the error!\n")

/-- Records an event and reports the error behind it. -/
def fail (debug : Bool) (traceback : Traceback) (event : Event) (e : Error) (m : Machine) :
    Machine :=
  { m with
    trace := event :: m.trace
    output := m.output ++ report debug e.message (traceback event) }

/-- Prints a value on a line of its own. -/
def printValue (value : Sexp) (m : Machine) : Machine :=
  { m with output := m.output ++ (value.render ++ "\n") }

/-- Evaluates the forms of tokens and prints their values. A form that fails is reported, and makes
    the status 1; the forms after it are read and evaluated all the same. An error in reading is
    reported, and ends the run with status 1. -/
def runTokens (fuel : Nat) (debug : Bool) (traceback : Traceback) (status : Nat) (toks : List Token)
    (m : Machine) : Option (Nat × Machine) :=
  match _h : Reading.form toks with
  | (.error e, _) => some (1, fail debug traceback (.readingFailed e) e m)
  | (.ok none, _) => some (status, m)
  | (.ok (some form), rest) =>
    match evaluate fuel form m with
    | none => none
    | some (.error e, m) =>
      runTokens fuel debug traceback 1 rest (fail debug traceback (.evaluationFailed form e) e m)
    | some (.ok value, m) => runTokens fuel debug traceback status rest (printValue value m)
termination_by toks.length
decreasing_by
  · exact Reading.length_lt_of_resume _h
  · exact Reading.length_lt_of_resume _h

/-- Runs a program and gives its status: 0 if all went well, and else 1. Where nothing is said about
    tracebacks, the reports of debug mode have the mark in their place. -/
def run (fuel : Nat) (debug : Bool) (source : String) (m : Machine)
    (traceback : Traceback := .mark) : Option (Nat × Machine) :=
  runTokens fuel debug traceback 0 (Token.lex source) m

end Program

end MiniLisp
