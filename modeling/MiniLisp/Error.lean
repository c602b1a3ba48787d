import MiniLisp.Foreign
import MiniLisp.Sexp

/-! # Errors

Everything that can go wrong when a program is read or run, as causes. `Error.message` words each
cause, and `Error.kind` places it in a hierarchy of kinds. -/

namespace MiniLisp

/-- The change that someone tried to make to an expression. -/
inductive Change where
  | assign
  | remove
  deriving Repr, DecidableEq

/-- A cause of failure. -/
inductive Error where
  /-- The text of an atom is neither a symbol nor an integer. -/
  | invalidAtom (v : Foreign)
  /-- A value that is no expression was offered as an element of a list. -/
  | invalidElement (v : Foreign)
  /-- An atom other than `NIL` was offered as the rest of a list. -/
  | invalidTail (x : Sexp)
  /-- A value that is no expression was offered as the rest of a list. -/
  | foreignTail (v : Foreign)
  /-- The number of a symbol was asked for. -/
  | notAnInteger (a : Atom)
  /-- A part of an expression was to be changed. -/
  | immutable (x : Sexp) (change : Change) (slot : String)
  /-- A numeral is too long to be read or written. -/
  | overflow (o : Numeral.Overflow)
  /-- A list that was to be taken apart has the wrong number of elements. -/
  | elementCount (expected given : Nat)
  /-- The text ends after a quote mark. -/
  | nothingQuoted
  /-- The text ends inside a list. -/
  | unclosedList
  /-- A closing parenthesis stands where a form should begin. -/
  | strayClose
  /-- A token is of a kind that the reader does not know. -/
  | unknownToken (kind text : String)
  /-- There is no form where one was asked for. -/
  | emptyInput
  /-- The formals of a function are no list. -/
  | formalsNotList
  /-- The body of a function is no list. -/
  | bodyNotList
  /-- A formal is no symbol. -/
  | invalidParameter (formal : Sexp)
  /-- A formal is repeated. -/
  | duplicateParameter (name : String)
  /-- A function was to be registered under a name of anonymous functions. -/
  | reservedName
  /-- A definition does not have three parts. -/
  | definitionParts
  /-- The name in a definition is no symbol. -/
  | invalidFunctionName (x : Sexp)
  /-- An anonymous function does not have two parts. -/
  | lambdaParts
  /-- The actuals of a call are an atom other than `NIL`. -/
  | invalidActuals (label : String)
  /-- A call has fewer actuals than there are formals. -/
  | tooFewArguments (label : String)
  /-- A call has more actuals than there are formals. -/
  | tooManyArguments (label : String)
  /-- The label of a function without one was asked for. -/
  | unlabelled
  /-- No function has this name. -/
  | undefinedFunction (name : String)
  /-- No primitive has this name. -/
  | undefinedPrimitive (name : String)
  /-- No variable has this name. -/
  | undefinedVariable (name : String)
  /-- No anonymous function is registered for these formals. -/
  | undefinedLambda (formals : Sexp)
  /-- The expression in front of a call is no function. -/
  | notAFunction (x : Sexp)
  /-- A value that is no expression was to be evaluated. -/
  | notEvaluable (v : Foreign)
  /-- A quotation does not have one part. -/
  | quotationParts
  /-- A clause of a conditional is no list of two elements. -/
  | malformedClause (clause : Sexp)
  /-- No clause of a conditional holds. -/
  | noClauseHolds
  /-- A local binding form does not have two parts. -/
  | bindingParts
  /-- A local binding is no list of two elements. -/
  | malformedBinding (binding : Sexp)
  /-- The name in a local binding is no symbol. -/
  | invalidBindingName (x : Sexp)
  /-- A primitive was called with the wrong number of arguments. -/
  | argumentCount (name : String) (expected given : Nat)
  /-- A primitive was called with something else than an integer. -/
  | integerExpected (name : String) (x : Sexp)
  /-- A primitive was called with something else than a list with elements. -/
  | listExpected (name : String) (x : Sexp)
  /-- The rest of a list that a program builds is no list. -/
  | tailExpected (x : Sexp)
  /-- Lists were compared with a comparison of atoms. -/
  | atomsExpected (a b : Sexp)
  /-- A division by zero. -/
  | divisionByZero (name : String)
  deriving Inhabited

namespace Error

/-- The text that reports an error. -/
def message : Error → String
  | .invalidAtom v => "Invalid atom specified: " ++ v.quoted
  | .invalidElement v => "Invalid list element: " ++ v.quoted
  | .invalidTail x => "Invalid list tail: " ++ x.render
  | .foreignTail v => "Invalid list tail: " ++ v.plain
  | .notAnInteger a => "Atom " ++ a.text ++ " is not an integer"
  | .immutable x change slot =>
    (if x.isList then "SExpression" else "Atom") ++ " is immutable; cannot " ++
      (match change with | .assign => "set " | .remove => "delete ") ++ Text.quoted slot
  | .overflow o => o.message
  | .elementCount expected given =>
    if given < expected then s!"not enough values to unpack (expected {expected}, got {given})"
    else s!"too many values to unpack (expected {expected})"
  | .nothingQuoted => "Expected an expression after quote"
  | .unclosedList => "Unmatched '('"
  | .strayClose => "Unexpected ')'"
  | .unknownToken kind text => "Unknown token: " ++ kind ++ " " ++ text
  | .emptyInput => "Empty input"
  | .formalsNotList => "Invalid function parameters"
  | .bodyNotList => "Invalid function body"
  | .invalidParameter x => "Parameter names must be alphanumeric literals : " ++ x.render
  | .duplicateParameter name => "Formal param names cannot be duplicates : " ++ name
  | .reservedName => "Use the anonymous function registration to register a lambda expression."
  | .definitionParts => "DEFUN requires a name, a formals list and a body"
  | .invalidFunctionName x => "Invalid function name: " ++ x.render
  | .lambdaParts => "LAMBDA requires a formals list and a body"
  | .invalidActuals label => "Invalid parameters passed in bind operation for function : " ++ label
  | .tooFewArguments label => "Too few args for function : " ++ label
  | .tooManyArguments label => "Too many args for function : " ++ label
  | .unlabelled => ""
  | .undefinedFunction name => "The function " ++ name ++ " is undefined."
  | .undefinedPrimitive name => "The primitive " ++ name ++ " is undefined."
  | .undefinedVariable name => "The variable " ++ name ++ " is undefined."
  | .undefinedLambda x => "No lambda is registered for the formals " ++ x.render ++ "."
  | .notAFunction x => x.render ++ " is not a function"
  | .notEvaluable v => "Cannot evaluate " ++ v.quoted
  | .quotationParts => "QUOTE expects exactly 1 argument"
  | .malformedClause x => "Malformed COND clause: " ++ x.render
  | .noClauseHolds => "No COND clause was satisfied"
  | .bindingParts => "LET requires a bindings list and a body"
  | .malformedBinding x => "Malformed LET binding: " ++ x.render
  | .invalidBindingName x => "LET binding name must be a symbol: " ++ x.render
  | .argumentCount name expected given =>
    s!"{name} requires exactly {expected} argument(s), got {given}"
  | .integerExpected name x => name ++ " expects integer arguments, got " ++ x.render
  | .listExpected name x => name ++ " expects a non-empty list, got " ++ x.render
  | .tailExpected x => "Second argument to CONS must be a list or NIL, got " ++ x.render
  | .atomsExpected a b => "EQ expects atoms, got " ++ a.render ++ " and " ++ b.render
  | .divisionByZero name => name ++ ": division by zero"

/-- Kinds of errors. -/
inductive Kind where
  /-- Every error of the language itself. -/
  | language
  /-- A malformed atom or list. -/
  | malformed
  /-- Unbalanced or unexpected tokens. -/
  | reading
  /-- A malformed definition or call. -/
  | definition
  /-- A formal that is no symbol. -/
  | parameter
  /-- A repeated formal. -/
  | duplicate
  /-- Actuals that are no list. -/
  | actuals
  /-- A number of actuals that does not match the formals. -/
  | arity
  /-- Fewer actuals than formals. -/
  | tooFew
  /-- More actuals than formals. -/
  | tooMany
  /-- A name that is not defined. -/
  | undefined
  /-- A function that is not defined. -/
  | undefinedFunction
  /-- A variable that is not defined. -/
  | undefinedVariable
  /-- An anonymous function that is not registered. -/
  | undefinedLambda
  /-- A form that cannot be evaluated. -/
  | evaluation
  /-- A primitive with the wrong number or type of arguments. -/
  | primitive
  /-- A number that cannot be read or written, or a list that cannot be taken apart. -/
  | value
  /-- A change of something that cannot be changed. -/
  | mutation
  /-- Something that is not there by design. -/
  | unavailable
  deriving Repr, DecidableEq

/-- The kind of an error. -/
def kind : Error → Kind
  | .invalidAtom _ | .invalidElement _ | .invalidTail _ | .foreignTail _
  | .notAnInteger _ => .malformed
  | .immutable .. => .mutation
  | .overflow _ | .elementCount .. => .value
  | .nothingQuoted | .unclosedList | .strayClose | .unknownToken .. | .emptyInput => .reading
  | .formalsNotList | .bodyNotList | .reservedName | .definitionParts | .invalidFunctionName _
  | .lambdaParts => .definition
  | .invalidParameter _ => .parameter
  | .duplicateParameter _ => .duplicate
  | .invalidActuals _ => .actuals
  | .tooFewArguments _ => .tooFew
  | .tooManyArguments _ => .tooMany
  | .unlabelled => .unavailable
  | .undefinedFunction _ | .undefinedPrimitive _ => .undefinedFunction
  | .undefinedVariable _ => .undefinedVariable
  | .undefinedLambda _ => .undefinedLambda
  | .notAFunction _ | .notEvaluable _ | .quotationParts | .malformedClause _ | .noClauseHolds
  | .bindingParts | .malformedBinding _ | .invalidBindingName _ => .evaluation
  | .argumentCount .. | .integerExpected .. | .listExpected .. | .tailExpected _
  | .atomsExpected .. | .divisionByZero _ => .primitive

namespace Kind

/-- The next wider kind within the language. -/
def parent? : Kind → Option Kind
  | .language | .value | .mutation | .unavailable => none
  | .malformed | .reading | .definition | .undefined | .evaluation | .primitive => some .language
  | .parameter | .duplicate | .actuals | .arity => some .definition
  | .tooFew | .tooMany => some .arity
  | .undefinedFunction | .undefinedVariable | .undefinedLambda => some .undefined

/-- The steps from a kind to the widest kind above it. -/
def depth : Kind → Nat
  | .language | .value | .mutation | .unavailable => 0
  | .malformed | .reading | .definition | .undefined | .evaluation | .primitive => 1
  | .parameter | .duplicate | .actuals | .arity => 2
  | .undefinedFunction | .undefinedVariable | .undefinedLambda => 2
  | .tooFew | .tooMany => 3

theorem depth_lt_of_parent?_eq {k p : Kind} (h : k.parent? = some p) : p.depth < k.depth := by
  cases k <;> simp [parent?] at h <;> subst h <;> decide

/-- A kind and all wider kinds, the narrowest first. -/
def ancestors (k : Kind) : List Kind :=
  match _h : k.parent? with
  | none => [k]
  | some p => k :: ancestors p
termination_by k.depth
decreasing_by exact depth_lt_of_parent?_eq _h

end Kind

end Error

end MiniLisp
