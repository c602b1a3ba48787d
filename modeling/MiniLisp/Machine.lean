import MiniLisp.Environment
import MiniLisp.Event

/-! # The machine

Evaluation reads and changes a machine: an environment, the text printed so far and the events so
far. A computation on the machine ends with a value or with an error, and leaves the machine changed
in both cases; or it does not end within the steps that it was given. -/

namespace MiniLisp

/-- The state of a running program. -/
structure Machine where
  env : Environment := {}
  /-- The text printed so far. -/
  output : String := ""
  /-- The events so far, the latest first. -/
  trace : List Event := []
  deriving Inhabited

/-- A computation on the machine. The result is `none` if it ran out of steps. -/
def Eval (α : Type) : Type := Machine → Option (Except Error α × Machine)

namespace Eval

variable {α β : Type}

/-- Ends with a value. -/
protected def pure (a : α) : Eval α := fun m => some (.ok a, m)

/-- Runs `x`, and then `f` on its value if it ends with one. -/
protected def bind (x : Eval α) (f : α → Eval β) : Eval β := fun m =>
  match x m with
  | none => none
  | some (.error e, m) => some (.error e, m)
  | some (.ok a, m) => f a m

instance : Monad Eval where
  pure := Eval.pure
  bind := Eval.bind

/-- Ends with an error. -/
def raise (e : Error) : Eval α := fun m => some (.error e, m)

/-- Runs out of steps. -/
def exhausted : Eval α := fun _ => none

/-- Ends as given, without touching the machine. -/
def ofExcept (r : Except Error α) : Eval α := fun m => some (r, m)

/-- The environment. -/
def environment : Eval Environment := fun m => some (.ok m.env, m)

/-- Changes the environment. -/
def modify (f : Environment → Environment) : Eval Unit := fun m =>
  some (.ok (), { m with env := f m.env })

/-- Prints a text. -/
def print (text : String) : Eval Unit := fun m =>
  some (.ok (), { m with output := m.output ++ text })

/-- Records an event. -/
def record (event : Event) : Eval Unit := fun m =>
  some (.ok (), { m with trace := event :: m.trace })

/-- Runs `x`, and then `cleanup` however `x` ended. The end is that of `x`, unless the cleanup
    fails. -/
def ensuring (x : Eval α) (cleanup : Eval Unit) : Eval α := fun m =>
  match x m with
  | none => none
  | some (r, m) =>
    match cleanup m with
    | none => none
    | some (.error e, m) => some (.error e, m)
    | some (.ok (), m) => some (r, m)

/-- Runs `x`, and if it fails gives the variables back the values that they had before. -/
def orRestore (x : Eval α) : Eval α := fun m =>
  match x m with
  | some (.error e, m') =>
    some (.error e, { m' with env := { m'.env with vars := m.env.vars } })
  | r => r

@[simp] theorem run_pure (a : α) (m : Machine) : (pure a : Eval α) m = some (.ok a, m) := rfl

@[simp] theorem run_bind (x : Eval α) (f : α → Eval β) (m : Machine) :
    (x >>= f) m = match x m with
      | none => none
      | some (.error e, m) => some (.error e, m)
      | some (.ok a, m) => f a m := rfl

@[simp] theorem run_raise (e : Error) (m : Machine) :
    (raise e : Eval α) m = some (.error e, m) := rfl

@[simp] theorem run_exhausted (m : Machine) : (exhausted : Eval α) m = none := rfl

@[simp] theorem run_ofExcept (r : Except Error α) (m : Machine) : ofExcept r m = some (r, m) := rfl

@[simp] theorem run_environment (m : Machine) : environment m = some (.ok m.env, m) := rfl

@[simp] theorem run_modify (f : Environment → Environment) (m : Machine) :
    modify f m = some (.ok (), { m with env := f m.env }) := rfl

@[simp] theorem run_print (text : String) (m : Machine) :
    print text m = some (.ok (), { m with output := m.output ++ text }) := rfl

@[simp] theorem run_record (event : Event) (m : Machine) :
    record event m = some (.ok (), { m with trace := event :: m.trace }) := rfl

/-! ## Names -/

/-- The value of a variable. -/
def variableValue (name : String) : Eval Sexp := do
  let env ← environment
  ofExcept (env.variableValue name)

/-- Gives variables the values of a table. -/
def substitute (table : Table Sexp) : Eval Unit := modify (·.substitute table)

/-- Replaces all variables. -/
def setVariables (table : Table Sexp) : Eval Unit := modify ({ · with vars := table })

/-- Takes a variable away. -/
def unbind (name : String) : Eval Unit := do
  let env ← environment
  let env ← ofExcept (env.unbind name)
  modify fun _ => env
  record (.variableUnbound name)

/-- Takes variables away one after the other. -/
def unbindEach : List String → Eval Unit
  | [] => pure ()
  | name :: names => do
    unbind name
    unbindEach names

/-- Takes all of the variables away, or none of them if one is not there. -/
def unbindAll (names : List String) : Eval Unit := orRestore (unbindEach names)

/-- Registers a named function. -/
def registerFunction (name : String) (formals body : Sexp) : Eval Function := do
  let fn ← ofExcept (Environment.namedFunction name formals body)
  modify (·.addFunction name fn)
  record (.functionRegistered name formals)
  pure fn

/-- Registers an anonymous function. -/
def registerLambda (formals body : Sexp) : Eval Function := do
  let fn ← ofExcept (Function.make .anonymous formals body)
  modify (·.addLambda fn)
  record (.lambdaRegistered fn)
  pure fn

/-- Resolves formals against the pending ones. -/
def resolvePending (formals : Sexp) : Eval Sexp := do
  let env ← environment
  let (key, pending) := env.pending.resolve formals
  modify ({ · with pending := pending })
  pure key

/-! ## Primitives -/

/-- Calls a primitive. Without an argument list there are no arguments. -/
def invoke (p : Primitive) (args : Option Sexp) : Eval Sexp := do
  let values := (args.map Sexp.items).getD []
  if p.accepts values.length then
    record (.primitiveCalled p args)
    print (p.printed values)
    ofExcept (p.apply values)
  else
    raise (p.countError (p.arity?.getD 0) values.length)

/-- Calls the primitive with a given name. -/
def invokeNamed (name : String) (args : Option Sexp) : Eval Sexp :=
  match Primitive.ofName? name with
  | none => raise (.undefinedPrimitive name)
  | some p => invoke p args

end Eval

end MiniLisp
