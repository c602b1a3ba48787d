import MiniLisp.SpecialForm

/-! # Evaluation

Integers, `T` and `NIL` stand for themselves, other symbols for variables, and lists for special
forms and calls. `step` says what one expression means in terms of an evaluator for others, and
`evaluate` ties the knot with a bound on the depth of evaluation. -/

namespace MiniLisp

/-- What a symbol in front of a list refers to. -/
inductive Target where
  | special (form : SpecialForm)
  | function (fn : Function)
  | primitive (p : Primitive)
  /-- A variable whose value has the form of an anonymous function. -/
  | lambda (form : Sexp)

/-- What a name in front of a list refers to. Special forms come before functions, functions before
    primitives, and primitives before variables. -/
def Environment.target? (env : Environment) (name : String) : Option Target :=
  match SpecialForm.ofName? name with
  | some form => some (.special form)
  | none =>
    match env.functions.get? name with
    | some fn => some (.function fn)
    | none =>
      match Primitive.ofName? name with
      | some p => some (.primitive p)
      | none =>
        match env.vars.get? name with
        | some value => if value.isLambdaForm then some (.lambda value) else none
        | none => none

/-- Applies what a name refers to. -/
def applyTarget (ev : Evaluator) (args : List Sexp) : Target → Eval Sexp
  | .special form => form.evaluate ev args
  | .function fn => Call.call ev fn (Sexp.ofList args)
  | .primitive p => do
    let values ← Call.evaluateAll ev args
    Eval.invoke p (some (Sexp.ofList values))
  | .lambda form => Call.applyForm ev form (Sexp.ofList args)

/-- Applies a name. -/
def applyNamed (ev : Evaluator) (name : String) (args : List Sexp) : Eval Sexp := do
  let env ← Eval.environment
  match env.target? name with
  | some target => applyTarget ev args target
  | none => Eval.raise (.undefinedFunction name)

/-- Applies a value. -/
def applyValue (ev : Evaluator) (fn : Sexp) (args : List Sexp) : Eval Sexp :=
  if fn.isLambdaForm then Call.applyForm ev fn (Sexp.ofList args)
  else Eval.raise (.notAFunction fn)

/-- The meaning of an expression, given an evaluator for other expressions. -/
def step (ev : Evaluator) : Evaluator
  | .atom a => if a.isConstant then pure (.atom a) else Eval.variableValue a.lit
  | .list (.atom a) args =>
    if a.isConstant then Eval.raise (.notAFunction (.atom a)) else applyNamed ev a.lit args
  | .list (.list head tail) args => do
    let fn ← ev (.list head tail)
    applyValue ev fn args

/-- Evaluates an expression to a depth of at most `fuel`. -/
def evaluate : (fuel : Nat) → Evaluator
  | 0 => fun _ => Eval.exhausted
  | fuel + 1 => step (evaluate fuel)

@[simp] theorem evaluate_zero (x : Sexp) : evaluate 0 x = Eval.exhausted := rfl

theorem evaluate_succ (fuel : Nat) (x : Sexp) :
    evaluate (fuel + 1) x = step (evaluate fuel) x := rfl

/-- The evaluation of `x` on the machine `m` finishes: with `r`, and with the machine `m'`. -/
def Evaluates (x : Sexp) (m : Machine) (r : Except Error Sexp) (m' : Machine) : Prop :=
  ∃ fuel, evaluate fuel x m = some (r, m')

/-- Evaluates a part, which must be an expression. -/
def evaluatePart (fuel : Nat) : Part → Eval Sexp
  | .sexp x => evaluate fuel x
  | .foreign v => Eval.raise (.notEvaluable v)

/-- A depth that no program reaches in practice. -/
def ampleFuel : Nat := 1000000000

end MiniLisp
