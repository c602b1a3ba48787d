import MiniLisp.Proofs.Atom
import MiniLisp.Proofs.Evaluation.LambdaIndependence

/-! # The binding forms agree

Names can be bound to values by a local binding form, by an anonymous function that is applied on
the spot, and by a call of a named function. The first evaluates, shadows and restores with rules of
its own, the second registers its function twice before it calls it, and the third looks its function
up before the actuals are evaluated. A program cannot tell them apart: each is a call of a function
with the same names and body, but for what becomes of anonymous functions and of the trace. -/

namespace MiniLisp

open Eval (KeepsVars)

/-! ## Outcomes -/

/-- What can be seen of an evaluation that has finished. Anonymous functions, pending formals and
    the trace are left out. -/
structure Outcome where
  /-- The value or the error. -/
  result : Except Error Sexp
  output : String
  functions : Table Function
  vars : Table Sexp

def Outcome.of : Except Error Sexp × Machine → Outcome
  | (r, m) => ⟨r, m.output, m.env.functions, m.env.vars⟩

/-- The evaluation of `x` on the machine `m` finishes with an outcome. -/
def Yields (x : Sexp) (m : Machine) (o : Outcome) : Prop :=
  ∃ r m', Evaluates x m r m' ∧ Outcome.of (r, m') = o

theorem Yields.of_runs {x y : Sexp} {m : Machine} {o : Outcome}
    (h : ∀ fuel, (evaluate (fuel + 2) x m).map Outcome.of =
      (evaluate (fuel + 2) y m).map Outcome.of) (hx : Yields x m o) : Yields y m o := by
  obtain ⟨r, m', ⟨fuel, hrun⟩, rfl⟩ := hx
  have hy := h fuel
  rw [evaluate_mono (Nat.le_add_right fuel 2) hrun] at hy
  obtain ⟨⟨r', n'⟩, hrun', ho⟩ := Option.map_eq_some_iff.1 hy.symm
  exact ⟨r', n', ⟨fuel + 2, hrun'⟩, ho⟩

/-- Expressions that have the same outcome at every depth of at least two have the same outcomes. -/
theorem yields_iff_of_runs {x y : Sexp} {m : Machine}
    (h : ∀ fuel, (evaluate (fuel + 2) x m).map Outcome.of =
      (evaluate (fuel + 2) y m).map Outcome.of) (o : Outcome) : Yields x m o ↔ Yields y m o :=
  ⟨.of_runs h, .of_runs fun fuel => (h fuel).symm⟩

/-- A computation that machines which are alike do in the same way has the same outcome on two
    machines that differ only in what is not seen. -/
theorem Outcome.eq_of_alike {x : Eval Sexp} (hkeeps : KeepsVars x)
    (hsim : ∀ p q, Eval.Simulates (Machine.Alike p q) x x) {m n : Machine}
    (hfunctions : n.env.functions = m.env.functions) (hvars : n.env.vars = m.env.vars)
    (houtput : n.output = m.output) : (x m).map Outcome.of = (x n).map Outcome.of := by
  have halike : Machine.Alike m.output m.output m n :=
    ⟨hfunctions, fun name => by rw [hvars], "", String.append_empty.symm, by
      rw [houtput, String.append_empty]⟩
  refine (hsim _ _).map_eq halike halike.symm ?_
  intro r m' n' hm hn hend
  obtain ⟨printed, hm', hn'⟩ := hend.output
  -- the order of the variables is kept by each run, not only their values
  have hvars' : n'.env.vars = m'.env.vars := by rw [hkeeps hn, hkeeps hm, hvars]
  simp only [Outcome.of, hend.functions, hvars', hm', hn']

/-! ## Scopes -/

/-- Distinct names with the expressions for their values, and a body in which they are bound. -/
structure Scope where
  bindings : List (Atom × Sexp)
  body : Sexp
  symbols : ∀ b ∈ bindings, b.1.isSymbol = true
  distinct : (bindings.map Prod.fst).Nodup
  list : body.isListOrNil = true

namespace Scope

variable (s : Scope)

def names : List String := s.bindings.map fun b => b.1.lit

def exprs : List Sexp := s.bindings.map Prod.snd

/-- The names as formals: `(x₁ … xₙ)`. -/
def formals : Sexp := .ofList ((s.bindings.map Prod.fst).map .atom)

/-- The names with their expressions: `(x₁ e₁) … (xₙ eₙ)`. -/
def specs : List Sexp := s.bindings.map fun b => .list (.atom b.1) [b.2]

/-- The form `(LET ((x₁ e₁) … (xₙ eₙ)) b)`. -/
def letForm : Sexp := .list (.atom ⟨"LET", by decide⟩) [.ofList s.specs, s.body]

/-- The form `((LAMBDA (x₁ … xₙ) b) e₁ … eₙ)`. -/
def lambdaForm : Sexp := .list (.list (.atom .lambda) [s.formals, s.body]) s.exprs

/-- The form `(f e₁ … eₙ)`. -/
def callForm (f : Atom) : Sexp := .list (.atom f) s.exprs

/-- Functions that are called like the scope: with its names for formals, and with its body. -/
structure Fits (fn : Function) : Prop where
  params : fn.params = s.names
  body : fn.body = s.body

/-- The anonymous function of the scope. -/
def function : Function := ⟨.anonymous, s.names, s.formals, s.body⟩

theorem fits_function : s.Fits s.function := ⟨rfl, rfl⟩

theorem make_function : Function.make .anonymous s.formals s.body = .ok s.function := by
  have hnodup : ((s.bindings.map Prod.fst).map Atom.lit).Nodup :=
    List.Pairwise.map Atom.lit (fun a b hne hlit => hne (Atom.ext_lit hlit)) s.distinct
  have hsymbol : ∀ x ∈ s.bindings.map Prod.fst, x.isSymbol = true := by
    intro x hx
    obtain ⟨b, hb, rfl⟩ := List.mem_map.1 hx
    exact s.symbols b hb
  rw [formals, Function.make_of_nodup .anonymous hsymbol hnodup s.list, List.map_map]
  rfl

/-! ## Local bindings as calls -/

variable {s} {ev : Evaluator} {fn : Function}

/-- Local bindings are evaluated like actuals. -/
theorem evaluateBindings_eq_bindParams (ev : Evaluator) (fn : Function) {bs : List (Atom × Sexp)}
    (hsymbol : ∀ b ∈ bs, b.1.isSymbol = true) (table : Table Sexp) :
    SpecialForm.evaluateBindings ev (bs.map fun b => .list (.atom b.1) [b.2]) table =
      Call.bindParams ev fn (bs.map fun b => b.1.lit) (bs.map Prod.snd) table := by
  induction bs generalizing table with
  | nil => rfl
  | cons b bs ih =>
    have hname : (Sexp.atom b.1).symbol? = some b.1.lit := by
      rw [Sexp.symbol?, if_pos (hsymbol b List.mem_cons_self)]
    have hrest := ih fun b' hb' => hsymbol b' (List.mem_cons_of_mem b hb')
    simp only [List.map_cons, SpecialForm.evaluateBindings_cons, hname, Call.bindParams, hrest]

theorem evaluateBindings_eq_bindArguments (hfn : s.Fits fn) :
    SpecialForm.evaluateBindings ev s.specs ∅ = Call.bindArguments ev fn (.ofList s.exprs) := by
  rw [specs, evaluateBindings_eq_bindParams ev fn s.symbols, exprs]
  have hparams := hfn.params
  rw [names] at hparams
  cases hbindings : s.bindings with
  | nil =>
    rw [hbindings] at hparams
    simp [Sexp.ofList, Sexp.nil, Call.bindArguments, Call.bindParams, hparams]
  | cons b bs =>
    rw [hbindings] at hparams
    simp only [List.map_cons, Sexp.ofList, Call.bindArguments, hparams]

/-- A local binding form has the outcome of a call. It ends by taking its names away one by one,
    where the call puts a copy of all variables back. -/
theorem evaluateLet_outcome (hev : ∀ x, KeepsVars (ev x)) (hfn : s.Fits fn) (m : Machine) :
    (SpecialForm.evaluateLet ev [.ofList s.specs, s.body] m).map Outcome.of =
      (Call.call ev fn (.ofList s.exprs) m).map Outcome.of := by
  rw [SpecialForm.evaluateLet, Sexp.items_ofList, evaluateBindings_eq_bindArguments hfn, Call.call,
    Eval.run_bind, Eval.run_bind]
  cases Call.bindArguments ev fn (.ofList s.exprs) m with
  | none => rfl
  | some p =>
    obtain ⟨r, m₁⟩ := p
    cases r with
    | error e => rfl
    | ok bindings =>
      show (Eval.ensuring (ev s.body)
          (SpecialForm.endScope bindings (m₁.env.vars.restrict bindings.keys))
          { m₁ with env := m₁.env.substitute bindings }).map Outcome.of =
        (Eval.ensuring (ev fn.body) (Eval.setVariables m₁.env.vars)
          { m₁ with env := m₁.env.substitute bindings }).map Outcome.of
      rw [Eval.ensuring, Eval.ensuring, hfn.body]
      cases hrun : ev s.body { m₁ with env := m₁.env.substitute bindings } with
      | none => rfl
      | some p =>
        obtain ⟨r, m₂⟩ := p
        -- the body left the bindings in place
        have hinner : m₂.env.vars = m₁.env.vars.merge bindings := hev _ hrun
        simp only [SpecialForm.endScope_run hinner]
        rfl

/-! ## The forms as calls -/

theorem letForm_outcome (fuel : Nat) (hfn : s.Fits fn) (m : Machine) :
    (evaluate (fuel + 1) s.letForm m).map Outcome.of =
      (Call.call (evaluate fuel) fn (.ofList s.exprs) m).map Outcome.of :=
  evaluateLet_outcome (evaluate_keepsVars fuel) hfn m

/-- A function is applied on the spot after it was registered twice: for its value, and to be
    called. -/
theorem lambdaForm_run (s : Scope) (fuel : Nat) (m : Machine) :
    evaluate (fuel + 2) s.lambdaForm m =
      Call.call (evaluate (fuel + 1)) s.function (.ofList s.exprs) { m with
        env := { (m.env.addLambda s.function).addLambda s.function with pending := none }
        trace := .lambdaRegistered s.function :: .lambdaRegistered s.function :: m.trace } := by
  have hvalue : evaluate (fuel + 1) (.list (.atom .lambda) [s.formals, s.body]) m =
      some (.ok (.list (.atom .lambda) [s.formals, s.body]), { m with
        env := m.env.addLambda s.function, trace := .lambdaRegistered s.function :: m.trace }) := by
    show SpecialForm.evaluateLambda [s.formals, s.body] m = _
    rw [SpecialForm.evaluateLambda_pair, Eval.run_bind, Eval.registerLambda_run, make_function]
    rfl
  rw [evaluate_succ, lambdaForm, step, Eval.run_bind, hvalue]
  show Call.applyLambda (evaluate (fuel + 1)) s.formals s.body (.ofList s.exprs) _ = _
  rw [Call.applyLambda_run, make_function]

theorem lambdaForm_outcome (s : Scope) (fuel : Nat) (m : Machine) :
    (evaluate (fuel + 2) s.lambdaForm m).map Outcome.of =
      (Call.call (evaluate (fuel + 1)) s.function (.ofList s.exprs) m).map Outcome.of := by
  have hkeeps := evaluate_keepsVars (fuel + 1)
  have hsim := fun p q =>
    call_simulates (Machine.Alike.congruence p q) (fuel + 1) s.function (.ofList s.exprs)
  rw [lambdaForm_run]
  exact Outcome.eq_of_alike (Call.call_keepsVars hkeeps _ _) hsim rfl rfl rfl

/-- The function is looked up before the actuals are evaluated. -/
theorem callForm_run (s : Scope) {f : Atom} (hf : f.isConstant = false)
    (hspecial : SpecialForm.ofName? f.lit = none) {m : Machine}
    (hlookup : m.env.functions.get? f.lit = some fn) (fuel : Nat) :
    evaluate (fuel + 1) (s.callForm f) m =
      Call.call (evaluate fuel) fn (.ofList s.exprs) m := by
  have htarget : m.env.target? f.lit = some (.function fn) :=
    Environment.target?_eq_function_iff.2 ⟨hspecial, hlookup⟩
  have hstep : step (evaluate fuel) (s.callForm f) = applyNamed (evaluate fuel) f.lit s.exprs :=
    if_neg (by simp [hf])
  rw [evaluate_succ, hstep, applyNamed_run, htarget]
  rfl

end Scope

/-- For all distinct names `x₁ … xₙ`, expressions `e₁ … eₙ` and bodies `b`, the forms
    `(LET ((x₁ e₁) … (xₙ eₙ)) b)` and `((LAMBDA (x₁ … xₙ) b) e₁ … eₙ)` have the same outcome on
    every machine, or both do not finish. So has `(f e₁ … eₙ)` if the machine has a function with
    these names and this body under `f`, and `f` is neither a truth value nor the name of a special
    form. -/
theorem binding_forms_agree (s : Scope) (m : Machine) :
    (∀ o, Yields s.letForm m o ↔ Yields s.lambdaForm m o) ∧
      ∀ (f : Atom) (fn : Function), f.isSymbol = true → f.lit ≠ "T" → f.lit ≠ "NIL" →
        SpecialForm.ofName? f.lit = none →
        m.env.functions.get? f.lit = some fn → fn.params = s.names → fn.body = s.body →
          ∀ o, Yields s.letForm m o ↔ Yields (s.callForm f) m o := by
  refine ⟨?_, ?_⟩
  · apply yields_iff_of_runs
    intro fuel
    rw [Scope.letForm_outcome _ s.fits_function, Scope.lambdaForm_outcome]
  · intro f fn hsymbol ht hnil hspecial hlookup hparams hbody
    have hf : f.isConstant = false := by
      simpa [Atom.isConstant, Atom.isNil, Atom.isTrue, Atom.isSymbol, ht, hnil] using hsymbol
    apply yields_iff_of_runs
    intro fuel
    rw [Scope.letForm_outcome _ ⟨hparams, hbody⟩, Scope.callForm_run s hf hspecial hlookup]

/-- The three forms for the bindings `(X (DEFUN F (Y) (CAR Y)))` and `(Y (LIST X))` and the body
    `(PRINT (CONS X Y))`, on a machine where `F` is the function that is called. It is defined anew
    before the call, and `X` has an outer value, which the second binding takes. -/
theorem binding_forms_agree_redefined :
    let x : Atom := ⟨"X", by decide⟩
    let y : Atom := ⟨"Y", by decide⟩
    let f : Atom := ⟨"F", by decide⟩
    let cons : Sexp := .list (.atom ⟨"CONS", by decide⟩) [.atom x, .atom y]
    let s : Scope :=
      { bindings :=
          [(x, .list (.atom ⟨"DEFUN", by decide⟩)
            [.atom f, .list (.atom y) [], .list (.atom ⟨"CAR", by decide⟩) [.atom y]]),
           (y, .list (.atom ⟨"LIST", by decide⟩) [.atom x])]
        body := .list (.atom ⟨"PRINT", by decide⟩) [cons]
        symbols := by decide
        distinct := by decide
        list := rfl }
    let fn : Function := ⟨.named "F", ["X", "Y"], s.formals, s.body⟩
    let m : Machine := { env :=
      { vars := Table.ofList [("X", .atom .t)], functions := Table.ofList [("F", fn)] } }
    ∃ o, o.output = "(F T)\n" ∧
      Yields s.letForm m o ∧ Yields s.lambdaForm m o ∧ Yields (s.callForm f) m o := by
  intro x y f cons s fn m
  have hprints : (evaluate 4 s.letForm m).map (·.2.output) = some "(F T)\n" := by decide +kernel
  obtain ⟨⟨r, m'⟩, hrun, houtput⟩ := Option.map_eq_some_iff.1 hprints
  have hlet : Yields s.letForm m (Outcome.of (r, m')) := ⟨r, m', ⟨4, hrun⟩, rfl⟩
  obtain ⟨hlambda, hcall⟩ := binding_forms_agree s m
  have hspecial : SpecialForm.ofName? f.lit = none := by decide +kernel
  have hfresh : f.isSymbol = true ∧ f.lit ≠ "T" ∧ f.lit ≠ "NIL" := by decide
  exact ⟨_, houtput, hlet, (hlambda _).1 hlet,
    (hcall f fn hfresh.1 hfresh.2.1 hfresh.2.2 hspecial rfl rfl rfl _).1 hlet⟩

end MiniLisp
