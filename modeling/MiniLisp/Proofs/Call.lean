import MiniLisp.Call
import MiniLisp.Proofs.Machine

/-! # Laws of calls

An anonymous function that is applied is looked up among all registered ones by its formals. Since
it was registered just before, the lookup finds that very function, whatever the table of anonymous
functions and the pending formals were. -/

namespace MiniLisp

theorem Sexp.beq_self (x : Sexp) : (x == x) = true := by
  show (x.render == x.render) = true
  exact beq_self_eq_true x.render

namespace Eval

/-- What registering an anonymous function does to the machine. -/
theorem registerLambda_run (formals body : Sexp) (m : Machine) :
    registerLambda formals body m =
      match Function.make .anonymous formals body with
      | .error e => some (.error e, m)
      | .ok fn => some (.ok fn, { m with
          env := m.env.addLambda fn, trace := .lambdaRegistered fn :: m.trace }) := by
  rw [registerLambda, run_bind, run_ofExcept]
  cases Function.make .anonymous formals body with
  | error e => rfl
  | ok fn => rfl

/-- What registering a named function does to the machine. -/
theorem registerFunction_run (name : String) (formals body : Sexp) (m : Machine) :
    registerFunction name formals body m =
      match Environment.namedFunction name formals body with
      | .error e => some (.error e, m)
      | .ok fn => some (.ok fn, { m with
          env := m.env.addFunction name fn, trace := .functionRegistered name formals :: m.trace })
      := by
  rw [registerFunction, run_bind, run_ofExcept]
  cases Environment.namedFunction name formals body with
  | error e => rfl
  | ok fn => rfl

end Eval

namespace Call

/-- Applying an anonymous function registers it and calls it. Its formals are no longer pending when
    the actuals are evaluated. -/
theorem applyLambda_run (ev : Evaluator) (formals body actuals : Sexp) (m : Machine) :
    applyLambda ev formals body actuals m =
      match Function.make .anonymous formals body with
      | .error e => some (.error e, m)
      | .ok fn => call ev fn actuals { m with
          env := { m.env.addLambda fn with pending := none }
          trace := .lambdaRegistered fn :: m.trace } := by
  rw [applyLambda, Eval.run_bind, Eval.registerLambda_run]
  cases Function.make .anonymous formals body with
  | error e => rfl
  | ok fn =>
    have hresolve : Pending.resolve (some fn.formals) fn.formals = (fn.formals, none) := by
      simp [Pending.resolve, Sexp.beq_self]
    have hlookup : (m.env.lambdas.insert fn.formals.render fn).get? fn.formals.render = some fn := by
      simp [Table.get?_insert]
    simp [Eval.resolvePending, callLambda, Environment.addLambda, Environment.lambdaFor, hresolve,
      hlookup]

end Call

end MiniLisp
