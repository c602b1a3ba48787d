import MiniLisp.Evaluation
import MiniLisp.Proofs.Call
import MiniLisp.Proofs.Program.Forms

/-! # Evaluation restores the variables

Two constructs bind variables for a time. A call takes a copy of the whole table and puts it back; a
local binding form takes its new names away and gives the names that it shadowed their old values
back. The second is right only because the body restored the table itself, so the law is proved of
all expressions together, by induction on the depth of evaluation: a computation made of parts that
keep the variables keeps them, whether it ends with a value or with an error. -/

namespace MiniLisp

/-! ## Computations that keep the variables -/

/-- A computation that leaves the variables as it found them, however it ends. -/
def Eval.KeepsVars {α : Type} (x : Eval α) : Prop :=
  ∀ ⦃m r m'⦄, x m = some (r, m') → m'.env.vars = m.env.vars

namespace Eval.KeepsVars

variable {α β : Type}

theorem ofExcept (r : Except Error α) : KeepsVars (Eval.ofExcept r) := by
  intro m r' m' h
  cases h
  rfl

theorem pure (a : α) : KeepsVars (Pure.pure a) := ofExcept (.ok a)

theorem raise (e : Error) : KeepsVars (Eval.raise e : Eval α) := ofExcept (.error e)

theorem environment : KeepsVars Eval.environment := by
  intro m r m' h
  cases h
  rfl

theorem print (text : String) : KeepsVars (Eval.print text) := by
  intro m r m' h
  cases h
  rfl

theorem record (event : Event) : KeepsVars (Eval.record event) := by
  intro m r m' h
  cases h
  rfl

theorem bind {x : Eval α} {f : α → Eval β} (hx : KeepsVars x) (hf : ∀ a, KeepsVars (f a)) :
    KeepsVars (x >>= f) := by
  intro m r m' h
  obtain ⟨e, hfail, rfl⟩ | ⟨a, m₁, hfirst, hsecond⟩ := bind_eq_some h
  · exact hx hfail
  · exact (hf a hsecond).trans (hx hfirst)

theorem ite {c : Prop} [Decidable c] {x y : Eval α} (hx : KeepsVars x) (hy : KeepsVars y) :
    KeepsVars (if c then x else y) := by
  split
  · exact hx
  · exact hy

theorem variableValue (name : String) : KeepsVars (Eval.variableValue name) := by
  apply bind environment
  intro env
  exact ofExcept (env.variableValue name)

theorem registerFunction (name : String) (formals body : Sexp) :
    KeepsVars (Eval.registerFunction name formals body) := by
  intro m r m' h
  rw [registerFunction_run] at h
  split at h
  · cases h
    rfl
  · cases h
    rfl

theorem registerLambda (formals body : Sexp) : KeepsVars (Eval.registerLambda formals body) := by
  intro m r m' h
  rw [registerLambda_run] at h
  split at h
  · cases h
    rfl
  · cases h
    rfl

theorem invoke (p : Primitive) (args : Option Sexp) : KeepsVars (Eval.invoke p args) := by
  apply ite
  · apply bind (record _)
    intro _
    apply bind (print _)
    intro _
    exact ofExcept _
  · exact raise _

end Eval.KeepsVars

open Eval (KeepsVars)

variable {ev : Evaluator}

/-! ## Calls -/

namespace Call

theorem evaluateAll_keepsVars (hev : ∀ x, KeepsVars (ev x)) (xs : List Sexp) :
    KeepsVars (evaluateAll ev xs) := by
  induction xs with
  | nil => exact .pure []
  | cons x xs ih =>
    apply KeepsVars.bind (hev x)
    intro value
    apply KeepsVars.bind ih
    intro values
    exact .pure (value :: values)

theorem bindParams_keepsVars (hev : ∀ x, KeepsVars (ev x)) (fn : Function) (params : List String)
    (actuals : List Sexp) (table : Table Sexp) :
    KeepsVars (bindParams ev fn params actuals table) := by
  induction params generalizing actuals table with
  | nil =>
    cases actuals with
    | nil => exact .pure table
    | cons actual actuals => exact .raise _
  | cons param params ih =>
    cases actuals with
    | nil => exact .raise _
    | cons actual actuals =>
      apply KeepsVars.bind (hev actual)
      intro value
      exact ih actuals (table.insert param value)

theorem bindArguments_keepsVars (hev : ∀ x, KeepsVars (ev x)) (fn : Function) (actuals : Sexp) :
    KeepsVars (bindArguments ev fn actuals) := by
  cases actuals with
  | atom a =>
    apply KeepsVars.ite
    · exact .pure ∅
    · exact .ite (.raise _) (.raise _)
  | list head tail => exact bindParams_keepsVars hev fn fn.params (head :: tail) ∅

/-- The copy that a call puts back is the table after the actuals were evaluated. -/
theorem call_keepsVars (hev : ∀ x, KeepsVars (ev x)) (fn : Function) (actuals : Sexp) :
    KeepsVars (call ev fn actuals) := by
  apply KeepsVars.bind (bindArguments_keepsVars hev fn actuals)
  intro bindings m r m' h
  change Eval.ensuring (ev fn.body) (Eval.setVariables m.env.vars)
    { m with env := m.env.substitute bindings } = some (r, m') at h
  obtain ⟨r₁, m₁, -, ⟨e, hset, -⟩ | ⟨hset, -⟩⟩ := Eval.ensuring_eq_some h
  · cases hset
  · cases hset
    rfl

theorem applyLambda_keepsVars (hev : ∀ x, KeepsVars (ev x)) (formals body actuals : Sexp) :
    KeepsVars (applyLambda ev formals body actuals) := by
  intro m r m' h
  rw [applyLambda_run] at h
  cases hmake : Function.make .anonymous formals body with
  | error e =>
    rw [hmake] at h
    cases h
    rfl
  | ok fn =>
    rw [hmake] at h
    -- the call starts from the machine with the function registered, which has the same variables
    have hcall := call_keepsVars hev fn actuals h
    exact hcall

theorem applyForm_keepsVars (hev : ∀ x, KeepsVars (ev x)) (form actuals : Sexp) :
    KeepsVars (applyForm ev form actuals) := by
  apply KeepsVars.bind (.ofExcept _)
  intro parts
  exact applyLambda_keepsVars hev parts.2.1 parts.2.2 actuals

end Call

/-! ## Special forms -/

namespace SpecialForm

theorem evaluateClauses_keepsVars (hev : ∀ x, KeepsVars (ev x)) (clauses : List Sexp) :
    KeepsVars (evaluateClauses ev clauses) := by
  induction clauses with
  | nil => exact .raise _
  | cons clause rest ih =>
    apply KeepsVars.bind (.ofExcept _)
    intro parts
    apply KeepsVars.bind (hev parts.1)
    intro value
    exact .ite ih (hev parts.2)

theorem evaluateDefun_keepsVars (args : List Sexp) : KeepsVars (evaluateDefun args) := by
  rw [evaluateDefun.eq_def]
  split
  · next name formals body =>
    cases name.symbol? with
    | none => exact .raise _
    | some s =>
      apply KeepsVars.bind (.registerFunction s formals body)
      intro _
      exact .pure name
  · exact .raise _

theorem evaluateLambda_keepsVars (args : List Sexp) : KeepsVars (evaluateLambda args) := by
  rw [evaluateLambda.eq_def]
  split
  · next formals body =>
    apply KeepsVars.bind (.registerLambda formals body)
    intro _
    exact .ofExcept _
  · exact .raise _

theorem evaluateBindings_keepsVars (hev : ∀ x, KeepsVars (ev x)) (specs : List Sexp)
    (table : Table Sexp) : KeepsVars (evaluateBindings ev specs table) := by
  induction specs generalizing table with
  | nil => exact .pure table
  | cons binding rest ih =>
    refine .ite (.bind (.ofExcept _) ?_) (.raise _)
    rintro ⟨name, expr⟩
    dsimp only
    cases name.symbol? with
    | none => exact .raise _
    | some s =>
      apply KeepsVars.bind (hev expr)
      intro value
      exact ih (table.insert s value)

/-- Ending a scope from the table that it began with: the variables are those from before the scope,
    and each name that was new is reported as taken away. -/
theorem endScope_run {m : Machine} {vars bindings : Table Sexp}
    (hvars : m.env.vars = vars.merge bindings) :
    endScope bindings (vars.restrict bindings.keys) m = some (.ok (), { m with
      env := { m.env with vars := vars }
      trace := ((bindings.keys.filter fun name => name ∉ vars.keys).map
        Event.variableUnbound).reverse ++ m.trace }) := by
  have hnodup : (bindings.keys.filter fun name => name ∉ vars.keys).Nodup :=
    bindings.keys_nodup.filter _
  have hmem : ∀ name ∈ bindings.keys.filter (fun name => name ∉ vars.keys),
      name ∈ m.env.vars.keys := by
    intro name hname
    rw [hvars, Table.keys_merge]
    exact List.mem_append_right _ hname
  have hrestored := Table.eraseAll_merge_restrict vars bindings
  rw [endScope, Eval.run_bind, Eval.run_environment]
  simp only
  rw [Eval.run_bind, hvars, Table.filter_keys_eq_fresh, Eval.unbindAll_of_removable ⟨hnodup, hmem⟩]
  simp only [Eval.substitute, Eval.run_modify, Environment.substitute, hvars, hrestored]

theorem evaluateLet_keepsVars (hev : ∀ x, KeepsVars (ev x)) (args : List Sexp) :
    KeepsVars (evaluateLet ev args) := by
  rw [evaluateLet.eq_def]
  split
  · next specs body =>
    apply KeepsVars.bind (evaluateBindings_keepsVars hev specs.items ∅)
    intro bindings m r m' h
    change Eval.ensuring (ev body) (endScope bindings (m.env.vars.restrict bindings.keys))
      { m with env := m.env.substitute bindings } = some (r, m') at h
    obtain ⟨r₁, m₁, hbody, hend⟩ := Eval.ensuring_eq_some h
    -- the body left the bindings in place, so the end of the scope finds what it expects
    have hinner : m₁.env.vars = m.env.vars.merge bindings := hev body hbody
    rw [endScope_run hinner] at hend
    obtain ⟨e, hfail, -⟩ | ⟨hdone, -⟩ := hend
    · cases hfail
    · cases hdone
      rfl
  · exact .raise _

theorem evaluate_keepsVars (hev : ∀ x, KeepsVars (ev x)) (form : SpecialForm) (args : List Sexp) :
    KeepsVars (form.evaluate ev args) := by
  cases form with
  | quote =>
    rw [evaluate, evaluateQuote.eq_def]
    split
    · exact .pure _
    · exact .raise _
  | cond =>
    apply KeepsVars.bind (.ofExcept _)
    intro _
    exact evaluateClauses_keepsVars hev args
  | defun => exact evaluateDefun_keepsVars args
  | lambda => exact evaluateLambda_keepsVars args
  | letForm => exact evaluateLet_keepsVars hev args

end SpecialForm

/-! ## Evaluation -/

theorem applyTarget_keepsVars (hev : ∀ x, KeepsVars (ev x)) (args : List Sexp) (target : Target) :
    KeepsVars (applyTarget ev args target) := by
  cases target with
  | special form => exact form.evaluate_keepsVars hev args
  | function fn => exact Call.call_keepsVars hev fn _
  | primitive p =>
    apply KeepsVars.bind (Call.evaluateAll_keepsVars hev args)
    intro values
    exact .invoke p _
  | lambda form => exact Call.applyForm_keepsVars hev form _

theorem applyNamed_keepsVars (hev : ∀ x, KeepsVars (ev x)) (name : String) (args : List Sexp) :
    KeepsVars (applyNamed ev name args) := by
  apply KeepsVars.bind .environment
  intro env
  cases env.target? name with
  | none => exact .raise _
  | some target => exact applyTarget_keepsVars hev args target

theorem applyValue_keepsVars (hev : ∀ x, KeepsVars (ev x)) (fn : Sexp) (args : List Sexp) :
    KeepsVars (applyValue ev fn args) := by
  exact .ite (Call.applyForm_keepsVars hev fn _) (.raise _)

/-- One step keeps the variables if the evaluator for the parts does. -/
theorem step_keepsVars (hev : ∀ x, KeepsVars (ev x)) (x : Sexp) : KeepsVars (step ev x) := by
  cases x with
  | atom a => exact .ite (.pure _) (.variableValue a.lit)
  | list head args =>
    cases head with
    | atom a => exact .ite (.raise _) (applyNamed_keepsVars hev a.lit args)
    | list head tail =>
      apply KeepsVars.bind (hev _)
      intro fn
      exact applyValue_keepsVars hev fn args

theorem evaluate_keepsVars (fuel : Nat) (x : Sexp) : KeepsVars (evaluate fuel x) := by
  induction fuel generalizing x with
  | zero => intro m r m' h; cases h
  | succ fuel ih => exact step_keepsVars ih x

/-! ## Programs -/

namespace Program

/-- The machines that an interpreter passes through: a fresh one, those after any number of forms of
    a source, and those after a whole run. A source is gone through up to the first form that fails,
    or to its end with a report of each form that fails. -/
inductive Reached : Machine → Prop where
  | fresh : Reached {}
  | values {m m' : Machine} {outcome : List Sexp × Option Error} (fuel : Nat) (source : String)
      (count : Nat) : Reached m →
      iterate fuel ((read source).forms.take count) m = some (outcome, m') → Reached m'
  | forms {m m' : Machine} {status : Nat} (fuel : Nat) (debug : Bool) (traceback : Traceback)
      (source : String) (count : Nat) : Reached m →
      runForms fuel debug traceback 0 ((read source).forms.take count) m = some (status, m') →
      Reached m'
  | run {m m' : Machine} {status : Nat} (fuel : Nat) (debug : Bool) (traceback : Traceback)
      (source : String) : Reached m →
      run fuel debug source m traceback = some (status, m') → Reached m'

/-- A property of machines that is kept by the evaluation of forms that were read, and by reports of
    what came of it. -/
structure Kept (P : Machine → Prop) : Prop where
  evaluate : ∀ {fuel source form m r m'}, form ∈ (read source).forms →
    evaluate fuel form m = some (r, m') → P m → P m'
  report : ∀ {m : Machine} (output : String) (trace : List Event), P m →
    P { m with output := output, trace := trace }

section

variable {P : Machine → Prop} (hP : Kept P) {source : String}
include hP

theorem iterate_kept {fuel : Nat} {forms : List Sexp} (hforms : forms ⊆ (read source).forms)
    {m m' : Machine} {outcome : List Sexp × Option Error}
    (h : iterate fuel forms m = some (outcome, m')) (hm : P m) : P m' := by
  induction forms generalizing m outcome with
  | nil => cases h; exact hm
  | cons form forms ih =>
    obtain ⟨hform, hrest⟩ := List.cons_subset.1 hforms
    rw [iterate] at h
    split at h
    · cases h
    · next hrun =>
      cases h
      exact hP.evaluate hform hrun hm
    · next value m₁ hrun =>
      split at h
      · cases h
      · next hruns =>
        cases h
        exact ih hrest hruns (hP.evaluate hform hrun hm)

theorem runForms_kept {fuel : Nat} {debug : Bool} {traceback : Traceback} {status status' : Nat}
    {forms : List Sexp} (hforms : forms ⊆ (read source).forms) {m m' : Machine}
    (h : runForms fuel debug traceback status forms m = some (status', m')) (hm : P m) : P m' := by
  induction forms generalizing m status with
  | nil => cases h; exact hm
  | cons form forms ih =>
    obtain ⟨hform, hrest⟩ := List.cons_subset.1 hforms
    rw [runForms] at h
    split at h
    · cases h
    · next hrun => exact ih hrest h (hP.report _ _ (hP.evaluate hform hrun hm))
    · next hrun => exact ih hrest h (hP.report _ _ (hP.evaluate hform hrun hm))

theorem run_kept {fuel : Nat} {debug : Bool} {traceback : Traceback} {m m' : Machine} {status : Nat}
    (h : run fuel debug source m traceback = some (status, m')) (hm : P m) : P m' := by
  rw [run_eq_map, Option.map_eq_some_iff] at h
  obtain ⟨⟨status₁, m₁⟩, hforms, hend⟩ := h
  have hkept := runForms_kept hP (List.Subset.refl _) hforms hm
  cases hfailure : (read source).failure with
  | none =>
    rw [hfailure] at hend
    cases hend
    exact hkept
  | some e =>
    rw [hfailure] at hend
    cases hend
    exact hP.report _ _ hkept

/-- A property that is kept holds of all machines that an interpreter passes through if it holds of a
    fresh one. -/
theorem Reached.of_kept (hfresh : P {}) {m : Machine} (h : Reached m) : P m := by
  induction h with
  | fresh => exact hfresh
  | values fuel source count _ hvalues ih =>
    exact iterate_kept hP (List.take_subset count _) hvalues ih
  | forms fuel debug traceback source count _ hforms ih =>
    exact runForms_kept hP (List.take_subset count _) hforms ih
  | run fuel debug traceback source _ hrun ih => exact run_kept hP hrun ih

end

theorem Reached.vars_eq_empty {m : Machine} (h : Reached m) : m.env.vars = ∅ := by
  have hkept : Kept fun m => m.env.vars = ∅ :=
    ⟨fun _ hrun hm => (evaluate_keepsVars _ _ hrun).trans hm, fun _ _ hm => hm⟩
  exact Reached.of_kept hkept rfl h

end Program

/-- Whenever the evaluation of an expression finishes, with a value or with an error, the table of
    variables is the one from before, order included. So between the top-level forms of programs
    there are no variables at all. -/
theorem evaluates_restores_variables :
    (∀ x m r m', Evaluates x m r m' → m'.env.vars = m.env.vars) ∧
      ∀ m, Program.Reached m → m.env.vars = ∅ := by
  refine ⟨?_, fun m => Program.Reached.vars_eq_empty⟩
  rintro x m r m' ⟨fuel, h⟩
  exact evaluate_keepsVars fuel x h

/-- `(LET ((X 1) (Y 2)) (CAR X))` fails in its body and gives `X` its outer value back, and a program
    that fails inside a call leaves no variables behind. -/
theorem evaluates_restores_variables_on_failure :
    let number (s : String) (h : isAtomLiteral s = true) : Sexp := .atom ⟨s, h⟩
    let x : Sexp := .atom ⟨"X", by decide⟩
    let form : Sexp := .list (.atom ⟨"LET", by decide⟩)
      [.list (.list x [number "1" (by decide)])
        [.list (.atom ⟨"Y", by decide⟩) [number "2" (by decide)]],
       .list (.atom ⟨"CAR", by decide⟩) [x]]
    let outer : Machine := { env := { vars := Table.ofList [("X", number "7" (by decide))] } }
    (∃ m', Evaluates form outer (.error (.listExpected "CAR" (number "1" (by decide)))) m' ∧
      m'.env.vars = outer.env.vars) ∧
    ∃ status m', Program.run 9 false "(DEFUN FIRST (X) (CAR X)) (FIRST 5) (FIRST '(5))" {} =
      some (status, m') ∧ m'.env.vars = ∅ := by
  intro number x form outer
  refine ⟨⟨_, ⟨3, rfl⟩, evaluates_restores_variables.1 form outer _ _ ⟨3, rfl⟩⟩, ?_⟩
  have hdone : (Program.run 9 false "(DEFUN FIRST (X) (CAR X)) (FIRST 5) (FIRST '(5))" {}).isSome =
      true := by decide +kernel
  obtain ⟨⟨status, m'⟩, hrun⟩ := Option.isSome_iff_exists.1 hdone
  exact ⟨status, m', hrun, evaluates_restores_variables.2 m' (.run 9 false .mark _ .fresh hrun)⟩

end MiniLisp
