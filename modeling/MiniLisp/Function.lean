import MiniLisp.Error

/-! # Functions

A function has formals, which are distinct symbols, and a body, which is a list. -/

namespace MiniLisp

/-- Where a function comes from, which decides how it is called in messages. -/
inductive Function.Origin where
  /-- A definition that gave it a name. -/
  | named (name : String)
  /-- A form without a name. -/
  | anonymous
  /-- Neither; such a function can be called and has no label. -/
  | bare
  deriving Repr, DecidableEq

/-- A function. -/
structure Function where
  origin : Function.Origin
  /-- The names of the formals, in order. -/
  params : List String
  /-- The formals as written. -/
  formals : Sexp
  body : Sexp

namespace Function

/-- The names of formals, given the names before them. Each must be a symbol that is not among the
    names before it. -/
def paramNames (seen : List String) : List Sexp → Except Error (List String)
  | [] => .ok []
  | formal :: formals =>
    match formal.symbol? with
    | none => .error (.invalidParameter formal)
    | some name =>
      if seen.contains name then .error (.duplicateParameter name)
      else (name :: ·) <$> paramNames (name :: seen) formals

/-- A function with the given formals and body, if they fit. -/
def make (origin : Origin) (formals body : Sexp) : Except Error Function :=
  if !formals.isListOrNil then .error .formalsNotList
  else if !body.isListOrNil then .error .bodyNotList
  else (fun params => ⟨origin, params, formals, body⟩) <$> paramNames [] formals.items

/-- The number of formals. -/
def arity (fn : Function) : Nat := fn.params.length

/-- What a function is called in messages. -/
def label (fn : Function) : Except Error String :=
  match fn.origin with
  | .named name => .ok name
  | .anonymous => .ok "lambda"
  | .bare => .error .unlabelled

/-- An error that names a function, or the error that it has no name. -/
def labelError (fn : Function) (error : String → Error) : Error :=
  match fn.label with
  | .ok label => error label
  | .error e => e

/-- The text that shows a function: its label, formals and body between parentheses. -/
def render (fn : Function) : Except Error String :=
  fn.label.map fun label =>
    "(" ++ label ++ " (" ++ " ".intercalate fn.params ++ ") " ++ fn.body.render ++ ")"

end Function

end MiniLisp
