import MiniLisp.Proofs.Evaluation.Coupling

/-! # The errors of programs

Many steps of the evaluator rely on a check that was made elsewhere: an anonymous function is looked
up because it was just registered, the actuals of a call are a list because they are the rest of one,
a primitive takes its arguments apart because they were counted, and so were the parts of clauses,
local bindings and anonymous functions. So the errors of those steps never occur, and an evaluation
that fails does so for a reason that lies in the program. -/

namespace MiniLisp

/-- All functions have been defined by name, and all errors come about by evaluating. -/
def namedFunctions : Invariant where
  bounds := ⟨Set.univ, fun _ => True, fun e => e.isOfEvaluation = true⟩
  function _ fn := ∃ label, fn.origin = .named label
  output _ := True
  closed := ⟨Sexp.closedLiterals_univ, fun _ _ => trivial, id⟩
  callable := by
    rintro name fn ⟨label, horigin⟩
    have hlabel : fn.label = .ok label := by rw [Function.label, horigin]
    refine ⟨Sexp.over_univ fn.body, ?_, ?_⟩
    · rw [Function.labelError, hlabel]; rfl
    · rw [Function.labelError, hlabel]; rfl
  defined := by
    intro name fn formals body hmake _ _ _
    exact ⟨name, (Function.make_eq_ok (Environment.namedFunction_eq_ok hmake).2).1⟩
  printed _ _ := trivial

/-- The kinds of the errors of evaluation. The errors about long numbers stand apart. -/
theorem Error.kind_of_isOfEvaluation {e : Error} (h : e.isOfEvaluation = true) :
    e.kind ∈ [.undefinedVariable, .undefinedFunction, .evaluation, .definition, .parameter,
      .duplicate, .tooFew, .tooMany, .primitive] ∨ ∃ o, e = .overflow o := by
  rw [isOfEvaluation.eq_def] at h
  split at h
  · next o => exact Or.inr ⟨o, rfl⟩
  · left
    generalize e.kind = k at h
    cases k <;> simp [Kind.isOfEvaluation] at h ⊢

/-- Where all functions have been defined by name, an evaluation that fails does so because a
    variable or function is not defined, a form, definition or formal is malformed, a call has too
    few or too many actuals, a primitive does not fit its arguments, or a number is too long. And a
    primitive that is called with as many arguments as it takes finds each of them. -/
theorem evaluates_fails_by_program :
    (∀ (x : Sexp) (m : Machine) (e : Error) (m' : Machine),
      (∀ name fn, m.env.functions.get? name = some fn → ∃ label, fn.origin = .named label) →
      Evaluates x m (.error e) m' →
        e.kind ∈ [.undefinedVariable, .undefinedFunction, .evaluation, .definition, .parameter,
          .duplicate, .tooFew, .tooMany, .primitive] ∨ ∃ o, e = .overflow o) ∧
      ∀ (p : Primitive) (args : List Sexp), p.accepts args.length = true →
        ∀ name expected given, p.apply args ≠ .error (.argumentCount name expected given) := by
  refine ⟨?_, ?_⟩
  · rintro x m e m' hnamed ⟨fuel, h⟩
    have hm : namedFunctions.Holds m := ⟨fun _ => Sexp.over_univ _, hnamed _ _, trivial⟩
    obtain ⟨hkind, -⟩ := hm.evaluate (Sexp.over_univ x) h
    exact Error.kind_of_isOfEvaluation hkind
  · intro p args hcount name expected given h
    have hend := Primitive.apply_over Sexp.closedLiterals_univ hcount fun x _ => Sexp.over_univ x
    rw [h] at hend
    cases hend

/-- `((LAMBDA (X) (FIRST X)) 'A)` fails inside the function that it calls, which expects a list. The
    formals `(X)` were registered before with a function that is no longer there. -/
theorem evaluates_fails_by_program_nested :
    let x : Sexp := .atom ⟨"X", by decide⟩
    let a : Sexp := .atom ⟨"A", by decide⟩
    let first : Function :=
      ⟨.named "FIRST", ["X"], .list x [], .list (.atom ⟨"CAR", by decide⟩) [x]⟩
    let m : Machine := { env :=
      { functions := Table.ofList [("FIRST", first)], pending := some (.list x []) } }
    let form : Sexp := .list (.list (.atom .lambda)
      [.list x [], .list (.atom ⟨"FIRST", by decide⟩) [x]]) [.list (.atom .quote) [a]]
    (∃ m', Evaluates form m (.error (.listExpected "CAR" a)) m' ∧
      ((Error.listExpected "CAR" a).kind ∈ [.undefinedVariable, .undefinedFunction, .evaluation,
        .definition, .parameter, .duplicate, .tooFew, .tooMany, .primitive] ∨
        ∃ o, Error.listExpected "CAR" a = .overflow o)) ∧
      Primitive.car.accepts [a].length = true ∧
        ∀ name expected given,
          Primitive.car.apply [a] ≠ .error (.argumentCount name expected given) := by
  intro x a first m form
  have hnamed : ∀ name fn, m.env.functions.get? name = some fn →
      ∃ label, fn.origin = .named label := by
    intro name fn hfn
    change Table.find name [("FIRST", first)] = some fn at hfn
    rw [Table.find] at hfn
    split at hfn
    · cases hfn
      exact ⟨"FIRST", rfl⟩
    · cases hfn
  have hrun : Evaluates form m (.error (.listExpected "CAR" a)) _ := ⟨6, rfl⟩
  exact ⟨⟨_, hrun, evaluates_fails_by_program.1 form m _ _ hnamed hrun⟩, rfl,
    evaluates_fails_by_program.2 .car [a] rfl⟩

end MiniLisp
