import MiniLisp.Editor.Span
import MiniLisp.Reading
import MiniLisp.Table
import MiniLisp.Text.Line

/-! # The index of a document

What an editor knows about a text without running it: the functions that it defines, what is wrong
with their formals, whether its parentheses balance and whether it can be read. The index is made
from spans, so it also works for a text that is not complete. -/

namespace MiniLisp.Editor

/-- What can be wrong with a formal. -/
inductive ParamProblem where
  /-- A list in place of a symbol. -/
  | list
  /-- Something else in place of a symbol. -/
  | notSymbol (text : String)
  /-- A repeated symbol. -/
  | duplicate (name : String)
  deriving Repr, DecidableEq

/-- The text that reports a problem. -/
def ParamProblem.message : ParamProblem → String
  | .list => "Parameter names must be alphanumeric literals"
  | .notSymbol text => "Parameter names must be alphanumeric literals : " ++ text
  | .duplicate name => "Formal param names cannot be duplicates : " ++ name

/-- What is wrong with formals, given the ones before them. -/
def paramProblemsAfter (seen : List String) : List String → List ParamProblem
  | [] => []
  | p :: ps =>
    let here : List ParamProblem :=
      if p = "(" then [.list]
      else if !isSymbolLiteral p then [.notSymbol p]
      else if seen.contains p then [.duplicate p]
      else []
    here ++ paramProblemsAfter (p :: seen) ps

/-- What is wrong with formals. -/
def paramProblems (params : List String) : List ParamProblem := paramProblemsAfter [] params

/-- A definition found in a text, and the place of its name. -/
structure Definition where
  name : String
  params : List String
  place : Text.Position
  deriving Repr, DecidableEq

/-- A problem with a definition, reported at the place of its name. -/
structure Problem where
  message : String
  place : Text.Position
  deriving Repr, DecidableEq

namespace Definition

/-- The formals that begin with the first of the given pieces. A list of formals goes up to the next
    closing parenthesis; anything else stands for no formals. -/
def paramsOf : List String → List String
  | [] => []
  | text :: rest => if text = "(" then rest.takeWhile (· ≠ ")") else []

/-- The definition whose opening parenthesis stands before the given spans. -/
def after? (text : List Char) : List Span → Option Definition
  | head :: name :: rest =>
    if Text.upper head.text = "DEFUN" && name.text ≠ "(" && name.text ≠ ")" then
      some ⟨name.text, paramsOf (rest.map Span.text), Text.position text name.start⟩
    else none
  | _ => none

/-- The definitions among spans, in order. -/
def among (text : List Char) : List Span → List Definition
  | [] => []
  | span :: rest =>
    if span.text = "(" then (after? text rest).toList ++ among text rest else among text rest

/-- What is wrong with the formals of a definition. -/
def problems (d : Definition) : List Problem :=
  (paramProblems d.params).map fun p => ⟨d.name ++ ": " ++ p.message, d.place⟩

end Definition

/-- What an editor knows about a text. -/
structure Index where
  /-- The functions by name; of several definitions of a name the last one counts, in the place of
      the first. -/
  functions : Table Definition
  problems : List Problem
  /-- Opening parentheses less closing ones. -/
  balance : Int
  /-- Why the text cannot be read. -/
  readerError : Option Error

/-- Opening parentheses less closing ones. -/
def balanceOf (spans : List Span) : Int :=
  ((spans.map Span.text).count "(" : Int) - ((spans.map Span.text).count ")" : Int)

/-- The index of a text. -/
def Index.of (text : String) : Index :=
  let spans := spans text
  let definitions := Definition.among text.toList spans
  { functions := Table.ofList (definitions.map fun d => (d.name, d))
    problems := definitions.flatMap Definition.problems
    balance := balanceOf spans
    readerError := (read text).failure }

end MiniLisp.Editor
