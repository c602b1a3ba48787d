import MiniLisp.Proofs.Evaluation.Calls

/-! # Rules of evaluation

How the value of an expression follows from the values of its parts, where nothing is printed and the
environment stays as it is. A rule takes what is known of the parts in an environment, and no fuel is
left in it. -/

namespace MiniLisp

/-! ## Expressions without effects -/

namespace Environment

/-- Evaluated in the environment, the expression ends with `r`, prints nothing and leaves the
    environment as it is. -/
def Gives (env : Environment) (x : Sexp) (r : Except Error Sexp) : Prop := env.Evaluates x r "" env

/-- Expressions that are evaluated one after the other in the environment end with their values or
    with the first error, and without effects. -/
inductive GivesAll (env : Environment) : List Sexp → Except Error (List Sexp) → Prop where
  | nil : GivesAll env [] (.ok [])
  | error {x : Sexp} {xs : List Sexp} {e : Error} (head : env.Gives x (.error e)) :
      GivesAll env (x :: xs) (.error e)
  | cons {x v : Sexp} {xs : List Sexp} {r : Except Error (List Sexp)} (head : env.Gives x (.ok v))
      (tail : GivesAll env xs r) : GivesAll env (x :: xs) (r.map (v :: ·))

variable {env : Environment}

theorem Gives.machine {x : Sexp} {r : Except Error Sexp} (h : env.Gives x r) {m : Machine}
    (hm : m.env = env) :
    ∃ m', MiniLisp.Evaluates x m r m' ∧ m'.env = env ∧ m'.output = m.output := by
  subst hm
  obtain ⟨m', heval, henv, houtput⟩ := h.machine
  exact ⟨m', heval, henv, by rw [houtput, String.append_empty]⟩

/-- It is enough to look at the machine with nothing printed. -/
theorem gives_of_run {x : Sexp} {r : Except Error Sexp} {m' : Machine} (fuel : Nat)
    (hrun : evaluate fuel x { env := env } = some (r, m')) (henv : m'.env = env)
    (houtput : m'.output = "") : env.Gives x r :=
  ⟨m', ⟨fuel, hrun⟩, houtput, henv⟩

theorem GivesAll.inTurn {xs : List Sexp} {r : Except Error (List Sexp)} (h : env.GivesAll xs r)
    {m : Machine} (hm : m.env = env) :
    ∃ turns m', InTurn xs m turns m' ∧ Turn.results turns = r ∧ m'.env = env ∧
      m'.output = m.output := by
  induction h generalizing m with
  | nil => exact ⟨[], m, .nil m, rfl, hm, rfl⟩
  | error head =>
    obtain ⟨m', heval, henv, houtput⟩ := head.machine hm
    exact ⟨_, m', .error heval, rfl, henv, houtput⟩
  | cons head _ ih =>
    obtain ⟨m₁, heval, henv₁, houtput₁⟩ := head.machine hm
    obtain ⟨turns, m', hturns, hresults, henv, houtput⟩ := ih henv₁
    refine ⟨_, m', .cons heval hturns, ?_, henv, houtput.trans houtput₁⟩
    rw [Turn.results, hresults]
    rfl

/-! ## Atoms -/

theorem gives_constant {a : Atom} (h : a.isConstant = true) : env.Gives (.atom a) (.ok (.atom a)) := by
  have hrun : evaluate 1 (.atom a) { env := env } = some (.ok (.atom a), { env := env }) := by
    rw [evaluate_succ, step, if_pos h]
    rfl
  exact gives_of_run 1 hrun rfl rfl

theorem gives_variable {a : Atom} {v : Sexp} (h : a.isConstant = false)
    (hvalue : env.vars.get? a.lit = some v) : env.Gives (.atom a) (.ok v) := by
  have hrun : evaluate 1 (.atom a) { env := env } = some (.ok v, { env := env }) := by
    rw [evaluate_succ, step, if_neg (by simp [h])]
    simp [Eval.variableValue, variableValue, hvalue]
  exact gives_of_run 1 hrun rfl rfl

end Environment

/-! ## Special forms -/

/-- A list with a name in front is evaluated as what the name refers to says. -/
theorem evaluate_named {a : Atom} (h : a.isConstant = false) {m : Machine} {target : Target}
    (htarget : m.env.target? a.lit = some target) (fuel : Nat) (args : List Sexp) :
    evaluate (fuel + 1) (.list (.atom a) args) m =
      applyTarget (evaluate fuel) args target m := by
  rw [evaluate_succ, step, if_neg (by simp [h]), applyNamed_run, htarget]

namespace SpecialForm

/-- The symbol that names a special form. -/
def symbol (f : SpecialForm) : Atom := ⟨f.name, by cases f <;> decide⟩

/-- Special forms have no other names before them. -/
theorem evaluate_symbol (f : SpecialForm) (fuel : Nat) (args : List Sexp) (m : Machine) :
    MiniLisp.evaluate (fuel + 1) (.list (.atom f.symbol) args) m =
      f.evaluate (MiniLisp.evaluate fuel) args m := by
  have hconstant : f.symbol.isConstant = false := by
    cases f <;> decide
  have hname : ofName? f.symbol.lit = some f := by
    cases f <;> decide
  have htarget : m.env.target? f.symbol.lit = some (.special f) :=
    Environment.target?_eq_special_iff.2 hname
  rw [evaluate_named hconstant htarget, applyTarget]

/-- The form `(COND (p₁ e₁) … (pₙ eₙ))`. -/
def condForm (cs : List (Sexp × Sexp)) : Sexp :=
  .list (.atom cond.symbol) (cs.map fun c => .list c.1 [c.2])

theorem checkClauses_map (cs : List (Sexp × Sexp)) :
    checkClauses (cs.map fun c => .list c.1 [c.2]) = .ok () := by
  induction cs with
  | nil => rfl
  | cons c cs ih => exact ih

theorem evaluate_condForm (fuel : Nat) (cs : List (Sexp × Sexp)) (m : Machine) :
    MiniLisp.evaluate (fuel + 1) (condForm cs) m =
      evaluateClauses (MiniLisp.evaluate fuel) (cs.map fun c => .list c.1 [c.2]) m := by
  rw [condForm, evaluate_symbol, evaluate, evaluateCond, checkClauses_map]
  rfl

theorem evaluate_condForm_nil (fuel : Nat) (m : Machine) :
    MiniLisp.evaluate (fuel + 1) (condForm []) m = some (.error .noClauseHolds, m) :=
  evaluate_condForm fuel [] m

/-- A test decides between the expression of its clause and the clauses after it. -/
theorem evaluate_condForm_cons (fuel : Nat) (test expr : Sexp) (cs : List (Sexp × Sexp))
    (m : Machine) :
    MiniLisp.evaluate (fuel + 1) (condForm ((test, expr) :: cs)) m =
      (MiniLisp.evaluate fuel test >>= fun value =>
        if value.isNil then MiniLisp.evaluate (fuel + 1) (condForm cs)
        else MiniLisp.evaluate fuel expr) m := by
  have hrest : evaluateClauses (MiniLisp.evaluate fuel) (cs.map fun c => .list c.1 [c.2]) =
      MiniLisp.evaluate (fuel + 1) (condForm cs) :=
    funext fun m => (evaluate_condForm fuel cs m).symm
  rw [evaluate_condForm, List.map_cons, evaluateClauses_cons, hrest]

end SpecialForm

namespace Environment

open SpecialForm (condForm evaluate_condForm_cons)

variable {env : Environment} {test expr v : Sexp} {cs : List (Sexp × Sexp)} {r : Except Error Sexp}

theorem gives_quotation (x : Sexp) : env.Gives (Reading.quotation x) (.ok x) := by
  have hrun : evaluate 1 (Reading.quotation x) { env := env } = some (.ok x, { env := env }) :=
    SpecialForm.quote.evaluate_symbol 0 [x] _
  exact gives_of_run 1 hrun rfl rfl

/-- A test that holds decides for its expression. -/
theorem gives_cond_of_holds (htest : env.Gives test (.ok v)) (hv : v.isNil = false)
    (hexpr : env.Gives expr r) : env.Gives (condForm ((test, expr) :: cs)) r := by
  obtain ⟨m₁, ⟨fuel₁, hrun₁⟩, henv₁, houtput₁⟩ := htest.machine (m := { env := env }) rfl
  obtain ⟨m₂, ⟨fuel₂, hrun₂⟩, henv₂, houtput₂⟩ := hexpr.machine henv₁
  refine gives_of_run (max fuel₁ fuel₂ + 1) ?_ henv₂ (houtput₂.trans houtput₁)
  rw [evaluate_condForm_cons, Eval.run_bind,
    evaluate_mono (Nat.le_max_left fuel₁ fuel₂) hrun₁]
  simp only [hv]
  exact evaluate_mono (Nat.le_max_right fuel₁ fuel₂) hrun₂

/-- The test `T` always holds. -/
theorem gives_cond_of_t (hexpr : env.Gives expr r) : env.Gives (condForm ((.atom .t, expr) :: cs)) r :=
  gives_cond_of_holds (gives_constant (by decide)) (by decide) hexpr

/-- A test that gives `NIL` leaves the decision to the clauses after it. -/
theorem gives_cond_of_nil (htest : env.Gives test (.ok v)) (hv : v.isNil = true)
    (hrest : env.Gives (condForm cs) r) : env.Gives (condForm ((test, expr) :: cs)) r := by
  obtain ⟨m₁, ⟨fuel₁, hrun₁⟩, henv₁, houtput₁⟩ := htest.machine (m := { env := env }) rfl
  obtain ⟨m₂, ⟨fuel₂, hrun₂⟩, henv₂, houtput₂⟩ := hrest.machine henv₁
  refine gives_of_run (max fuel₁ fuel₂ + 1) ?_ henv₂ (houtput₂.trans houtput₁)
  rw [evaluate_condForm_cons, Eval.run_bind,
    evaluate_mono (Nat.le_max_left fuel₁ fuel₂) hrun₁]
  simp only [hv]
  exact evaluate_mono (by omega) hrun₂

end Environment

/-! ## Primitives -/

namespace Primitive

/-- The symbol that names a primitive. -/
def symbol (p : Primitive) : Atom := ⟨p.name, by cases p <;> decide⟩

/-- The form `(p x₁ … xₙ)`. -/
def form (p : Primitive) (args : List Sexp) : Sexp := .list (.atom p.symbol) args

theorem isConstant_symbol (p : Primitive) : p.symbol.isConstant = false := by
  cases p <;> decide

/-- A primitive other than the printing one only leaves a trace of its call. -/
theorem invoke_run {p : Primitive} (hquiet : p ≠ .print) (args : List Sexp)
    (hcount : p.accepts args.length = true) (m : Machine) :
    Eval.invoke p (some (.ofList args)) m =
      some (p.apply args, { m with
        trace := .primitiveCalled p (some (.ofList args)) :: m.trace }) := by
  have hprinted : p.printed args = "" := by
    rw [printed.eq_def]
    split
    · exact absurd rfl hquiet
    · rfl
  simp [Eval.invoke, hcount, hprinted]

end Primitive

namespace Environment

variable {env : Environment}

/-- A call of a primitive gives its value at the values of the arguments, or the first error among
    them. -/
theorem gives_primitive {p : Primitive} (hquiet : p ≠ .print)
    (hname : env.functions.get? p.name = none) {xs : List Sexp}
    {results : Except Error (List Sexp)} (hargs : env.GivesAll xs results)
    (hcount : p.accepts xs.length = true) : env.Gives (p.form xs) (results.bind p.apply) := by
  obtain ⟨turns, m₁, hturns, rfl, henv, houtput⟩ := hargs.inTurn (m := { env := env }) rfl
  obtain ⟨fuel, hall⟩ := hturns.evaluateAll
  have htarget : ({ env := env } : Machine).env.target? p.symbol.lit = some (.primitive p) :=
    target?_eq_primitive_iff.2 ⟨hname, p.ofName?_name⟩
  have hform := evaluate_named p.isConstant_symbol htarget fuel xs
  rw [applyTarget, Eval.run_bind, hall fuel (Nat.le_refl fuel)] at hform
  cases hresults : Turn.results turns with
  | error e =>
    rw [hresults] at hform
    exact gives_of_run (fuel + 1) hform henv houtput
  | ok values =>
    rw [hresults] at hform
    have hvalues : p.accepts values.length = true := by
      rw [hturns.length_of_results hresults]
      exact hcount
    simp only [Primitive.invoke_run hquiet values hvalues] at hform
    exact gives_of_run (fuel + 1) hform henv houtput

theorem gives_primitive_one {p : Primitive} (hquiet : p ≠ .print) (hp : p.arity? = some 1)
    (hname : env.functions.get? p.name = none) {x v : Sexp} (hx : env.Gives x (.ok v)) :
    env.Gives (p.form [x]) (p.apply [v]) :=
  gives_primitive hquiet hname (.cons hx .nil) (by simp [Primitive.accepts, hp])

theorem gives_primitive_two {p : Primitive} (hp : p.arity? = some 2)
    (hname : env.functions.get? p.name = none) {x y v w : Sexp} (hx : env.Gives x (.ok v))
    (hy : env.Gives y (.ok w)) : env.Gives (p.form [x, y]) (p.apply [v, w]) := by
  have hquiet : p ≠ .print := by
    rintro rfl
    cases hp
  exact gives_primitive hquiet hname (.cons hx (.cons hy .nil)) (by simp [Primitive.accepts, hp])

/-! ## Functions -/

/-- A call of a function gives what its body gives with the formals bound to the values of the
    actuals. -/
theorem gives_call {f : Atom} {fn : Function} (hf : f.isConstant = false)
    (hspecial : SpecialForm.ofName? f.lit = none) (hlookup : env.functions.get? f.lit = some fn)
    {xs vs : List Sexp} (hargs : env.GivesAll xs (.ok vs)) (hcount : xs.length = fn.arity)
    {r : Except Error Sexp}
    (hbody : (env.substitute (.ofList (fn.params.zip vs))).Gives fn.body r) :
    env.Gives (.list (.atom f) xs) r := by
  obtain ⟨turns, m₁, hturns, hresults, henv₁, houtput₁⟩ := hargs.inTurn (m := { env := env }) rfl
  obtain ⟨fuel₁, hall⟩ := hturns.evaluateAll
  obtain ⟨m₂, ⟨fuel₂, hrun₂⟩, henv₂, houtput₂⟩ := hbody.machine
    (m := { m₁ with env := m₁.env.substitute (.ofList (fn.params.zip vs)) }) (by rw [henv₁])
  have htarget : ({ env := env } : Machine).env.target? f.lit = some (.function fn) :=
    target?_eq_function_iff.2 ⟨hspecial, hlookup⟩
  have hbound : Call.bindArguments (evaluate (max fuel₁ fuel₂)) fn (.ofList xs) { env := env } =
      some (.ok (.ofList (fn.params.zip vs)), m₁) := by
    have htake : xs.take fn.arity = xs := List.take_of_length_le (Nat.le_of_eq hcount)
    rw [Call.bindArguments_run, htake, hall _ (Nat.le_max_left fuel₁ fuel₂), hresults, hcount]
    simp [Call.checkCount, Except.bind]
  have hrestored : Eval.setVariables m₁.env.vars m₂ =
      some (.ok (), { m₂ with env := { m₂.env with vars := m₁.env.vars } }) := rfl
  have hcall : evaluate (max fuel₁ fuel₂ + 1) (.list (.atom f) xs) { env := env } =
      some (r, { m₂ with env := { m₂.env with vars := m₁.env.vars } }) := by
    rw [evaluate_named hf htarget, applyTarget, Call.call, Eval.run_bind, hbound]
    exact Eval.ensuring_of_ok (evaluate_mono (Nat.le_max_right fuel₁ fuel₂) hrun₂) hrestored
  refine gives_of_run (max fuel₁ fuel₂ + 1) hcall ?_ (houtput₂.trans houtput₁)
  rw [henv₂, henv₁]
  rfl

end Environment

end MiniLisp
