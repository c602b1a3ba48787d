import MiniLisp.Evaluation
import MiniLisp.Proofs.Function
import MiniLisp.Proofs.Primitive
import MiniLisp.Proofs.Table

/-! # Bounds on a run

What may occur in a run of the evaluator: the literals of the atoms that it meets, the names of the
variables that it looks up, and the errors that end its computations. Only bounds that contain what
evaluation makes by itself can be kept: truth values, integers, the symbol in front of anonymous
functions, and the errors that programs lead to. -/

namespace MiniLisp

/-- The kinds of errors that come about by evaluating a program. The others are about the text of a
    program, or about uses of parts of the evaluator that the evaluator itself does not make. -/
def Error.Kind.isOfEvaluation : Error.Kind → Bool
  | .undefinedVariable | .undefinedFunction | .evaluation | .definition | .parameter | .duplicate
  | .tooFew | .tooMany | .primitive => true
  | _ => false

/-- Whether an error comes about by evaluating a program. Of the errors about values these are the
    ones about long numbers; the evaluator takes no list apart whose elements it has not counted. -/
def Error.isOfEvaluation : Error → Bool
  | .overflow _ => true
  | e => e.kind.isOfEvaluation

theorem Error.isOfEvaluation_of_kind {e : Error} (h : e.kind.isOfEvaluation = true) :
    e.isOfEvaluation = true := by
  rw [isOfEvaluation.eq_def]
  split
  · rfl
  · exact h

/-- Clauses that pass the check can all be taken apart into two. -/
theorem SpecialForm.checkClauses_ends (clauses : List Sexp) :
    Ends (fun e => e.isOfEvaluation = true) (fun _ => ∀ c ∈ clauses, c.isListOf 2 = true)
      (checkClauses clauses) := by
  induction clauses with
  | nil => exact nofun
  | cons clause rest ih =>
    rw [checkClauses]
    split
    · next hclause => exact ih.imp fun _ hrest => List.forall_mem_cons.2 ⟨hclause, hrest⟩
    · exact rfl

/-- Bounds on what occurs in a run. -/
structure Bounds where
  /-- The literals of atoms. -/
  literals : Set String
  /-- The names of variables that are looked up. -/
  name : String → Prop
  /-- The errors. -/
  error : Error → Prop

namespace Bounds

/-- The bounds that exclude nothing. -/
def all : Bounds := ⟨Set.univ, fun _ => True, fun _ => True⟩

/-- Bounds that contain what evaluation makes by itself. -/
structure Closed (B : Bounds) : Prop where
  literals : Sexp.ClosedLiterals B.literals
  /-- Constants are never looked up. -/
  name : ∀ {a : Atom}, a.lit ∈ B.literals → a.isConstant = false → B.name a.lit
  error : ∀ {e : Error}, e.isOfEvaluation = true → B.error e

/-- A function whose calls stay within the bounds. -/
structure Callable (B : Bounds) (fn : Function) : Prop where
  body : fn.body.Over B.literals
  tooFew : B.error (fn.labelError .tooFewArguments)
  tooMany : B.error (fn.labelError .tooManyArguments)

/-- A table of variables within the bounds. -/
def HoldsOf (B : Bounds) (table : Table Sexp) : Prop :=
  ∀ name v, table.get? name = some v → v.Over B.literals

/-- Something that a name refers to within the bounds. -/
def TargetOver (B : Bounds) : Target → Prop
  | .special _ | .primitive _ => True
  | .function fn => B.Callable fn
  | .lambda form => form.Over B.literals ∧ form.isLambdaForm = true

variable {B : Bounds}

theorem all_closed : all.Closed := ⟨Sexp.closedLiterals_univ, fun _ _ => trivial, fun _ => trivial⟩

theorem all_callable (fn : Function) : all.Callable fn :=
  ⟨Sexp.over_univ fn.body, trivial, trivial⟩

theorem holdsOf_empty : B.HoldsOf ∅ := fun _ _ h => nomatch h

theorem HoldsOf.insert {table : Table Sexp} {v : Sexp} (h : B.HoldsOf table) (name : String)
    (hv : v.Over B.literals) : B.HoldsOf (table.insert name v) := by
  intro other w hw
  rw [Table.get?_insert] at hw
  split at hw
  · cases hw
    exact hv
  · exact h other w hw

theorem HoldsOf.merge {table bindings : Table Sexp} (h : B.HoldsOf table)
    (hbindings : B.HoldsOf bindings) : B.HoldsOf (table.merge bindings) := by
  intro name v hv
  rw [Table.get?_merge] at hv
  rcases Option.or_eq_some_iff.1 hv with hnew | ⟨-, hold⟩
  · exact hbindings name v hnew
  · exact h name v hold

namespace Closed

variable (hB : B.Closed)
include hB

theorem error_of_making {e : Error}
    (h : e.kind = .definition ∨ e.kind = .parameter ∨ e.kind = .duplicate) : B.error e := by
  apply hB.error
  apply Error.isOfEvaluation_of_kind
  rcases h with h | h | h
  · rw [h]; rfl
  · rw [h]; rfl
  · rw [h]; rfl

theorem error_of_arguments {e : Error} (h : e.isOfArguments = true) : B.error e := by
  apply hB.error
  cases e with
  | integerExpected | listExpected | tailExpected | atomsExpected | divisionByZero | overflow => rfl
  | _ => cases h

/-- A function whose body is within the bounds can be called, if it has a label. -/
theorem callable_of_make {origin : Function.Origin} {formals body : Sexp} {fn : Function}
    (h : Function.make origin formals body = .ok fn) (horigin : origin ≠ .bare)
    (hbody : body.Over B.literals) : B.Callable fn := by
  obtain ⟨hsame, -, hsameBody, -⟩ := Function.make_eq_ok h
  have hlabel : ∃ label, fn.label = .ok label := by
    rw [Function.label, hsame]
    cases origin with
    | named name => exact ⟨name, rfl⟩
    | anonymous => exact ⟨"lambda", rfl⟩
    | bare => exact absurd rfl horigin
  obtain ⟨label, hlabel⟩ := hlabel
  have herror : ∀ error : String → Error, (error label).isOfEvaluation = true →
      B.error (fn.labelError error) := by
    intro error hkind
    rw [Function.labelError, hlabel]
    exact hB.error hkind
  exact ⟨hsameBody ▸ hbody, herror _ rfl, herror _ rfl⟩

end Closed

end Bounds

end MiniLisp
