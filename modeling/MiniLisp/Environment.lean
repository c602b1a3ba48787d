import MiniLisp.Function
import MiniLisp.Table

/-! # Environments

What a program can refer to by name: variables, functions and anonymous functions. An anonymous
function is kept under the text of its formals, and the formals that were registered last are held
as pending until they are resolved. -/

namespace MiniLisp

/-- Formals that were registered last and not yet resolved. -/
abbrev Pending := Option Sexp

/-- Resolving a candidate: the pending formals if they look like it, which are then no longer
    pending, and else the candidate itself. -/
def Pending.resolve (pending : Pending) (candidate : Sexp) : Sexp × Pending :=
  match pending with
  | none => (candidate, none)
  | some formals => if formals == candidate then (formals, none) else (candidate, some formals)

/-- Variables, functions and anonymous functions. -/
structure Environment where
  vars : Table Sexp := ∅
  functions : Table Function := ∅
  lambdas : Table Function := ∅
  pending : Pending := none
  deriving Inhabited

namespace Environment

/-- The value of a variable. -/
def variableValue (env : Environment) (name : String) : Except Error Sexp :=
  match env.vars.get? name with
  | some value => .ok value
  | none => .error (.undefinedVariable name)

/-- The function with a given name. -/
def functionNamed (env : Environment) (name : String) : Except Error Function :=
  match env.functions.get? name with
  | some fn => .ok fn
  | none => .error (.undefinedFunction name)

/-- The anonymous function with given formals. -/
def lambdaFor (env : Environment) (formals : Sexp) : Except Error Function :=
  match env.lambdas.get? formals.render with
  | some fn => .ok fn
  | none => .error (.undefinedLambda formals)

/-- Gives variables the values of a table. -/
def substitute (env : Environment) (table : Table Sexp) : Environment :=
  { env with vars := env.vars.merge table }

/-- Takes a variable away. -/
def unbind (env : Environment) (name : String) : Except Error Environment :=
  if env.vars.contains name then .ok { env with vars := env.vars.erase name }
  else .error (.undefinedVariable name)

/-- Makes a named function. The names of anonymous functions cannot be taken. -/
def namedFunction (name : String) (formals body : Sexp) : Except Error Function :=
  if isLambdaName name then .error .reservedName else Function.make (.named name) formals body

/-- Keeps a function under a name. -/
def addFunction (env : Environment) (name : String) (fn : Function) : Environment :=
  { env with functions := env.functions.insert name fn }

/-- Keeps an anonymous function under its formals, which become pending. -/
def addLambda (env : Environment) (fn : Function) : Environment :=
  { env with lambdas := env.lambdas.insert fn.formals.render fn, pending := some fn.formals }

/-- The text that shows an environment: the variables in order with their values, and the names of
    the functions if there are any. -/
def render (env : Environment) : String :=
  let bindings := env.vars.entries.map fun e => e.1 ++ ": " ++ e.2.render
  let functions := env.functions.keys
  "\x7b" ++ ", ".intercalate bindings ++ "\x7d" ++
    (if functions.isEmpty then "" else " functions: " ++ ", ".intercalate functions)

/-- An environment's text between angle brackets. -/
def inspect (env : Environment) : String := "<Environment " ++ env.render ++ ">"

end Environment

end MiniLisp
