import MiniLisp.Function
import MiniLisp.Primitive

/-! # Events

What happens while a program runs is recorded as events, which the debug log shows line by line. -/

namespace MiniLisp

/-- Something worth a line in the debug log. -/
inductive Event where
  /-- A named function was registered. -/
  | functionRegistered (name : String) (formals : Sexp)
  /-- An anonymous function was registered. -/
  | lambdaRegistered (fn : Function)
  /-- A variable was taken away. -/
  | variableUnbound (name : String)
  /-- A primitive was called with as many arguments as it takes. -/
  | primitiveCalled (p : Primitive) (args : Option Sexp)
  /-- The text of a program could not be read on. -/
  | readingFailed (e : Error)
  /-- A form could not be evaluated. -/
  | evaluationFailed (form : Sexp) (e : Error)

namespace Event

/-- The part of the program that reports an event. -/
def reporter : Event → String
  | .functionRegistered .. | .lambdaRegistered _ | .variableUnbound _ =>
    "lispreter.types.environment"
  | .primitiveCalled .. => "lispreter.builtins"
  | .readingFailed _ | .evaluationFailed .. => "lispreter.cli"

/-- The text that reports an event. -/
def message : Event → String
  | .functionRegistered name formals => "registered function " ++ name ++ " " ++ formals.render
  | .lambdaRegistered fn => "registered lambda " ++ fn.render.toOption.getD ""
  | .variableUnbound name => "unbound variable " ++ name
  | .primitiveCalled p args =>
    "primitive " ++ p.name ++ " " ++ (match args with | some x => x.render | none => "None")
  | .readingFailed e => "reader failed: " ++ e.message
  | .evaluationFailed form e => "evaluation of " ++ form.render ++ " failed: " ++ e.message

/-- The line of the debug log for an event. -/
def line (event : Event) : String := "DEBUG " ++ event.reporter ++ ": " ++ event.message ++ "\n"

end Event

end MiniLisp
