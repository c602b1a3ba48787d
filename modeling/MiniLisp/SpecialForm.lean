import MiniLisp.Call

/-! # Special forms

The forms with evaluation rules of their own. Names are recognised in any case, and the Greek letter
is a second name of the form for anonymous functions. -/

namespace MiniLisp

/-- A form with an evaluation rule of its own. -/
inductive SpecialForm where
  /-- Gives its part as it is. -/
  | quote
  /-- Chooses among clauses. -/
  | cond
  /-- Defines a named function. -/
  | defun
  /-- Makes an anonymous function. -/
  | lambda
  /-- Binds variables locally. -/
  | letForm
  deriving Repr, DecidableEq

namespace SpecialForm

/-- All special forms, in the order in which they are offered. -/
def all : List SpecialForm := [.quote, .cond, .defun, .lambda, .letForm]

/-- The name of a special form, in capitals. -/
def name : SpecialForm → String
  | .quote => "QUOTE"
  | .cond => "COND"
  | .defun => "DEFUN"
  | .lambda => "LAMBDA"
  | .letForm => "LET"

/-- How a special form is written. -/
def signature : SpecialForm → String
  | .quote => "(QUOTE x)"
  | .cond => "(COND (p1 e1) (p2 e2) ...)"
  | .defun => "(DEFUN name (formals) body)"
  | .lambda => "(LAMBDA (formals) body)"
  | .letForm => "(LET ((name expr) ...) body)"

/-- The special form with a given name in capitals. -/
def named? (name : String) : Option SpecialForm := all.find? fun f => f.name = name

/-- The special form with a given name in any case. -/
def ofName? (s : String) : Option SpecialForm :=
  let name := Text.upper s
  if name = "Λ" then some .lambda else named? name

/-! ## Evaluation rules -/

/-- Gives the quoted expression. -/
def evaluateQuote : List Sexp → Eval Sexp
  | [x] => pure x
  | _ => Eval.raise .quotationParts

/-- Looks at the form of clauses, and refuses the first that is no list of two. -/
def checkClauses : List Sexp → Except Error Unit
  | [] => .ok ()
  | clause :: rest =>
    if clause.isListOf 2 then checkClauses rest else .error (.malformedClause clause)

/-- Evaluates the tests of clauses in order, and then the expression of the first that holds. -/
def evaluateClauses (ev : Evaluator) : List Sexp → Eval Sexp
  | [] => Eval.raise .noClauseHolds
  | clause :: rest => do
    let (test, expr) ← Eval.ofExcept clause.pair
    let value ← ev test
    if value.isNil then evaluateClauses ev rest else ev expr

@[simp] theorem evaluateClauses_cons (ev : Evaluator) (test expr : Sexp) (rest : List Sexp) :
    evaluateClauses ev (.list test [expr] :: rest) = (do
      let value ← ev test
      if value.isNil then evaluateClauses ev rest else ev expr) := rfl

/-- Looks at the form of all clauses before any is evaluated. -/
def evaluateCond (ev : Evaluator) (args : List Sexp) : Eval Sexp := do
  Eval.ofExcept (checkClauses args)
  evaluateClauses ev args

/-- Registers a named function, and gives its name. -/
def evaluateDefun : List Sexp → Eval Sexp
  | [name, formals, body] =>
    match name.symbol? with
    | none => Eval.raise (.invalidFunctionName name)
    | some s => do
      let _ ← Eval.registerFunction s formals body
      pure name
  | _ => Eval.raise .definitionParts

/-- Registers an anonymous function, and gives its form. -/
def evaluateLambda (args : List Sexp) : Eval Sexp :=
  match args with
  | [formals, body] => do
    let _ ← Eval.registerLambda formals body
    Eval.ofExcept (Sexp.cons (.sexp (.atom .lambda)) (.sexp (.ofList args)))
  | _ => Eval.raise .lambdaParts

@[simp] theorem evaluateLambda_pair (formals body : Sexp) :
    evaluateLambda [formals, body] = (do
      let _ ← Eval.registerLambda formals body
      pure (.list (.atom .lambda) [formals, body])) := rfl

/-- Evaluates local bindings in order, each in the enclosing scope. -/
def evaluateBindings (ev : Evaluator) : List Sexp → Table Sexp → Eval (Table Sexp)
  | [], table => pure table
  | binding :: rest, table =>
    if binding.isListOf 2 then do
      let (name, expr) ← Eval.ofExcept binding.pair
      match name.symbol? with
      | none => Eval.raise (.invalidBindingName name)
      | some s =>
        let value ← ev expr
        evaluateBindings ev rest (table.insert s value)
    else Eval.raise (.malformedBinding binding)

@[simp] theorem evaluateBindings_cons (ev : Evaluator) (name expr : Sexp) (rest : List Sexp)
    (table : Table Sexp) :
    evaluateBindings ev (.list name [expr] :: rest) table =
      (match name.symbol? with
      | none => Eval.raise (.invalidBindingName name)
      | some s => do
        let value ← ev expr
        evaluateBindings ev rest (table.insert s value)) := rfl

theorem evaluateBindings_of_not_isListOf {binding : Sexp} (h : ¬ binding.isListOf 2 = true)
    (ev : Evaluator) (rest : List Sexp) (table : Table Sexp) :
    evaluateBindings ev (binding :: rest) table = Eval.raise (.malformedBinding binding) :=
  if_neg h

/-- Ends the scope of local bindings: names that were bound before get their old values back, and
    the others are taken away. -/
def endScope (bindings shadowed : Table Sexp) : Eval Unit := do
  let env ← Eval.environment
  Eval.unbindAll (bindings.keys.filter fun name =>
    !shadowed.contains name && env.vars.contains name)
  Eval.substitute shadowed

/-- Evaluates a body with local bindings. An atom in place of the bindings stands for none. -/
def evaluateLet (ev : Evaluator) : List Sexp → Eval Sexp
  | [specs, body] => do
    let bindings ← evaluateBindings ev specs.items ∅
    let env ← Eval.environment
    let shadowed := env.vars.restrict bindings.keys
    Eval.substitute bindings
    Eval.ensuring (ev body) (endScope bindings shadowed)
  | _ => Eval.raise .bindingParts

/-- Evaluates a special form. -/
def evaluate (ev : Evaluator) (form : SpecialForm) (args : List Sexp) : Eval Sexp :=
  match form with
  | .quote => evaluateQuote args
  | .cond => evaluateCond ev args
  | .defun => evaluateDefun args
  | .lambda => evaluateLambda args
  | .letForm => evaluateLet ev args

end SpecialForm

end MiniLisp
