import MiniLisp.Machine

/-! # Calls

How a function meets its actuals. Everything here takes the evaluator as an argument, so that the
rules of a call can be read without the rules of the other forms. -/

namespace MiniLisp

/-- A way to evaluate expressions. -/
abbrev Evaluator := Sexp → Eval Sexp

namespace Call

/-- Evaluates expressions from left to right. -/
def evaluateAll (ev : Evaluator) : List Sexp → Eval (List Sexp)
  | [] => pure []
  | x :: xs => do
    let value ← ev x
    let values ← evaluateAll ev xs
    pure (value :: values)

/-- Evaluates actuals from left to right for as many formals as there are, and gives each formal its
    value. -/
def bindParams (ev : Evaluator) (fn : Function) :
    List String → List Sexp → Table Sexp → Eval (Table Sexp)
  | [], [], table => pure table
  | [], _ :: _, _ => Eval.raise (fn.labelError .tooManyArguments)
  | _ :: _, [], _ => Eval.raise (fn.labelError .tooFewArguments)
  | param :: params, actual :: actuals, table => do
    let value ← ev actual
    bindParams ev fn params actuals (table.insert param value)

/-- The table of a function's formals with the values of the actuals. A function without formals
    also accepts an atom for the list of actuals. -/
def bindArguments (ev : Evaluator) (fn : Function) : Sexp → Eval (Table Sexp)
  | .list head tail => bindParams ev fn fn.params (head :: tail) ∅
  | .atom a =>
    if fn.params.isEmpty then pure ∅
    else if a.isNil then Eval.raise (fn.labelError .tooFewArguments)
    else Eval.raise (fn.labelError .invalidActuals)

/-- Calls a function: its body is evaluated with the formals bound, and then the variables are as
    they were. -/
def call (ev : Evaluator) (fn : Function) (actuals : Sexp) : Eval Sexp := do
  let bindings ← bindArguments ev fn actuals
  let env ← Eval.environment
  Eval.substitute bindings
  Eval.ensuring (ev fn.body) (Eval.setVariables env.vars)

/-- Calls the function with a given name. -/
def callNamed (ev : Evaluator) (name : String) (actuals : Sexp) : Eval Sexp := do
  let env ← Eval.environment
  let fn ← Eval.ofExcept (env.functionNamed name)
  call ev fn actuals

/-- Calls the anonymous function that is registered for given formals. -/
def callLambda (ev : Evaluator) (formals actuals : Sexp) : Eval Sexp := do
  let env ← Eval.environment
  let fn ← Eval.ofExcept (env.lambdaFor formals)
  call ev fn actuals

/-- Applies an anonymous function: it is registered, and then called by its formals. -/
def applyLambda (ev : Evaluator) (formals body actuals : Sexp) : Eval Sexp := do
  let fn ← Eval.registerLambda formals body
  let key ← Eval.resolvePending fn.formals
  callLambda ev key actuals

/-- Takes the form of an anonymous function apart, and applies the function. -/
def applyForm (ev : Evaluator) (form actuals : Sexp) : Eval Sexp := do
  let (_, formals, body) ← Eval.ofExcept form.triple
  applyLambda ev formals body actuals

@[simp] theorem applyForm_list (ev : Evaluator) (head formals body actuals : Sexp) :
    applyForm ev (.list head [formals, body]) actuals = applyLambda ev formals body actuals := rfl

end Call

end MiniLisp
