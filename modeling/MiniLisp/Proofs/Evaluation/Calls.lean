import MiniLisp.Proofs.Environment
import MiniLisp.Proofs.Program.Session

/-! # Calls

What a call does before the body of its function is evaluated. The actuals are evaluated in turn, for
as many formals as there are, and only then it is seen whether their number is right; each of them
finds the variables of the caller. An anonymous function that is applied goes through the table of
all of them, and is called as if it had been at hand. -/

namespace MiniLisp

/-! ## Actuals in turn -/

/-- The evaluation of one of several expressions. -/
structure Turn where
  expr : Sexp
  /-- The machine that it began on. -/
  start : Machine
  result : Except Error Sexp

/-- Expressions are evaluated from left to right: the first one on the machine `m`, and each further
    one on the machine that the one before it left. An error ends this. -/
inductive InTurn : List Sexp → Machine → List Turn → Machine → Prop where
  | nil (m : Machine) : InTurn [] m [] m
  | error {x : Sexp} {xs : List Sexp} {m m' : Machine} {e : Error}
      (fails : Evaluates x m (.error e) m') : InTurn (x :: xs) m [⟨x, m, .error e⟩] m'
  | cons {x v : Sexp} {xs : List Sexp} {m m₁ m' : Machine} {turns : List Turn}
      (head : Evaluates x m (.ok v) m₁) (tail : InTurn xs m₁ turns m') :
      InTurn (x :: xs) m (⟨x, m, .ok v⟩ :: turns) m'

/-- The values of turns, or the first error. -/
def Turn.results : List Turn → Except Error (List Sexp)
  | [] => .ok []
  | t :: turns => t.result.bind fun v => (results turns).map (v :: ·)

namespace InTurn

variable {xs : List Sexp} {m m' : Machine} {turns : List Turn}

/-- Each expression has one turn at most, and the turns are in order. -/
theorem isPrefix (h : InTurn xs m turns m') : turns.map Turn.expr <+: xs := by
  induction h with
  | nil => exact List.prefix_refl []
  | error _ => simp
  | cons _ _ ih => simpa using ih

/-- Every turn begins with the variables from before the first one, since each gives them back. -/
theorem vars_eq (h : InTurn xs m turns m') :
    (∀ t ∈ turns, t.start.env.vars = m.env.vars) ∧ m'.env.vars = m.env.vars := by
  induction h with
  | nil => exact ⟨nofun, rfl⟩
  | error fails =>
    obtain ⟨fuel, hrun⟩ := fails
    exact ⟨by simp, evaluate_keepsVars fuel _ hrun⟩
  | cons head _ ih =>
    obtain ⟨fuel, hrun⟩ := head
    have hhead := evaluate_keepsVars fuel _ hrun
    obtain ⟨hturns, hend⟩ := ih
    refine ⟨?_, hend.trans hhead⟩
    intro t ht
    rcases List.mem_cons.1 ht with rfl | ht
    · rfl
    · exact (hturns t ht).trans hhead

/-- Without an error every expression has its turn. -/
theorem length_of_results {values : List Sexp} (h : InTurn xs m turns m')
    (hok : Turn.results turns = .ok values) : values.length = xs.length := by
  induction h generalizing values with
  | nil =>
    cases hok
    rfl
  | error _ => cases hok
  | @cons _ _ _ _ _ _ turns _ _ ih =>
    rw [Turn.results] at hok
    cases hrest : Turn.results turns with
    | error e => rw [hrest] at hok; cases hok
    | ok rest =>
      rw [hrest] at hok
      cases hok
      rw [List.length_cons, List.length_cons, ih hrest]

/-- Turns that finish each with some fuel all finish with enough of it. -/
theorem evaluateAll (h : InTurn xs m turns m') : ∃ fuel, ∀ fuel', fuel ≤ fuel' →
    Call.evaluateAll (evaluate fuel') xs m = some (Turn.results turns, m') := by
  induction h with
  | nil m => exact ⟨0, fun _ _ => rfl⟩
  | error fails =>
    obtain ⟨fuel, hrun⟩ := fails
    refine ⟨fuel, fun fuel' hle => ?_⟩
    rw [Call.evaluateAll, Eval.run_bind, evaluate_mono hle hrun]
    rfl
  | cons head _ ih =>
    obtain ⟨fuel, hrun⟩ := head
    obtain ⟨fuel₁, hrest⟩ := ih
    refine ⟨max fuel fuel₁, fun fuel' hle => ?_⟩
    rw [Call.evaluateAll, Eval.run_bind, evaluate_mono (Nat.le_trans (Nat.le_max_left _ _) hle) hrun]
    simp only
    rw [Eval.run_bind, hrest fuel' (Nat.le_trans (Nat.le_max_right _ _) hle), Turn.results]
    cases Turn.results _ <;> rfl

end InTurn

theorem inTurn_of_evaluateAll {fuel : Nat} {xs : List Sexp} {m m' : Machine}
    {r : Except Error (List Sexp)} (h : Call.evaluateAll (evaluate fuel) xs m = some (r, m')) :
    ∃ turns, InTurn xs m turns m' ∧ Turn.results turns = r := by
  induction xs generalizing m r with
  | nil =>
    cases h
    exact ⟨[], .nil _, rfl⟩
  | cons x xs ih =>
    rw [Call.evaluateAll] at h
    obtain ⟨e, hfail, rfl⟩ | ⟨v, m₁, hhead, hrest⟩ := Eval.bind_eq_some h
    · exact ⟨_, .error ⟨fuel, hfail⟩, rfl⟩
    · obtain ⟨e, hfail, rfl⟩ | ⟨vs, m₂, htail, hdone⟩ := Eval.bind_eq_some hrest
      · obtain ⟨turns, hturns, hresults⟩ := ih hfail
        refine ⟨_, .cons ⟨fuel, hhead⟩ hturns, ?_⟩
        rw [Turn.results, hresults]
        rfl
      · cases hdone
        obtain ⟨turns, hturns, hresults⟩ := ih htail
        refine ⟨_, .cons ⟨fuel, hhead⟩ hturns, ?_⟩
        rw [Turn.results, hresults]
        rfl

/-! ## Arity -/

namespace Call

/-- The table that binding gives once the actuals have values, if there are as many of them as there
    are formals. -/
def checkCount (fn : Function) (formals actuals : Nat) (table : Table Sexp) :
    Except Error (Table Sexp) :=
  if actuals < formals then .error (fn.labelError .tooFewArguments)
  else if formals < actuals then .error (fn.labelError .tooManyArguments)
  else .ok table

/-- Binding evaluates as many actuals as there are formals, and then counts. -/
theorem bindParams_run (ev : Evaluator) (fn : Function) (params : List String)
    (actuals : List Sexp) (table : Table Sexp) (m : Machine) :
    bindParams ev fn params actuals table m =
      (evaluateAll ev (actuals.take params.length) m).map fun p =>
        (p.1.bind fun values => checkCount fn params.length actuals.length
          (table.insertAll (params.zip values)), p.2) := by
  induction params generalizing actuals table m with
  | nil =>
    cases actuals with
    | nil => rfl
    | cons actual actuals => rfl
  | cons param params ih =>
    cases actuals with
    | nil => rfl
    | cons actual actuals =>
      rw [bindParams, Eval.run_bind, List.length_cons, List.take_succ_cons, evaluateAll,
        Eval.run_bind]
      cases ev actual m with
      | none => rfl
      | some p =>
        obtain ⟨r, m₁⟩ := p
        cases r with
        | error e => rfl
        | ok value =>
          simp only [ih, Eval.run_bind]
          cases evaluateAll ev (actuals.take params.length) m₁ with
          | none => rfl
          | some p =>
            obtain ⟨r, m₂⟩ := p
            cases r with
            | error e => rfl
            | ok values =>
              -- one formal and one actual more make no difference to the count
              simp only [Option.map_some, Eval.run_pure, Except.bind, checkCount, List.length_cons,
                Nat.add_lt_add_iff_right]
              rfl

theorem bindArguments_run (ev : Evaluator) (fn : Function) (actuals : List Sexp) (m : Machine) :
    bindArguments ev fn (.ofList actuals) m =
      (evaluateAll ev (actuals.take fn.arity) m).map fun p =>
        (p.1.bind fun values => checkCount fn fn.arity actuals.length
          (.ofList (fn.params.zip values)), p.2) := by
  have hparams : bindArguments ev fn (.ofList actuals) = bindParams ev fn fn.params actuals ∅ := by
    cases actuals with
    | nil =>
      rw [Sexp.ofList, Sexp.nil, bindArguments]
      cases fn.params with
      | nil => rfl
      | cons param params => rfl
    | cons actual actuals => rfl
  rw [hparams, bindParams_run]
  rfl

end Call

/-- How binding ends for a function that was given `count` actuals, after the results of those that
    it evaluates: with the error among them, with an error about the count, or with the table of the
    formals and their values in order. -/
inductive BindingEnds (fn : Function) (label : String) (count : Nat) :
    Except Error (List Sexp) → Except Error (Table Sexp) → Prop where
  | failed (e : Error) : BindingEnds fn label count (.error e) (.error e)
  | tooFew {values : List Sexp} (fewer : count < fn.arity) :
      BindingEnds fn label count (.ok values) (.error (.tooFewArguments label))
  | tooMany {values : List Sexp} (more : fn.arity < count) :
      BindingEnds fn label count (.ok values) (.error (.tooManyArguments label))
  | bound {values : List Sexp} {table : Table Sexp} (same : count = fn.arity)
      (length : values.length = fn.arity) (entries : table.entries = fn.params.zip values) :
      BindingEnds fn label count (.ok values) (.ok table)

theorem bindingEnds_iff {fn : Function} {label : String} {count : Nat}
    {results : Except Error (List Sexp)} {r : Except Error (Table Sexp)}
    (hlabel : fn.label = .ok label) (hdistinct : fn.params.Nodup)
    (hlength : ∀ values, results = .ok values → values.length = min fn.arity count) :
    BindingEnds fn label count results r ↔
      r = results.bind fun values =>
        Call.checkCount fn fn.arity count (.ofList (fn.params.zip values)) := by
  have herror : ∀ error : String → Error, fn.labelError error = error label := by
    intro error
    rw [Function.labelError, hlabel]
  cases results with
  | error e => exact ⟨fun | .failed _ => rfl, fun h => h ▸ .failed e⟩
  | ok values =>
    rw [show (Except.ok values).bind _ = Call.checkCount fn fn.arity count _ from rfl, Call.checkCount,
      herror, herror]
    rcases Nat.lt_trichotomy count fn.arity with hlt | heq | hgt
    · rw [if_pos hlt]
      refine ⟨?_, fun h => h ▸ .tooFew hlt⟩
      rintro (_ | _ | more | same)
      · rfl
      · omega
      · omega
    · have hvalues : values.length = fn.arity := by rw [hlength values rfl, heq, Nat.min_self]
      have hnodup : ((fn.params.zip values).map Prod.fst).Nodup := by
        rw [List.map_fst_zip (Nat.le_of_eq hvalues.symm)]
        exact hdistinct
      rw [if_neg (by omega), if_neg (by omega), Table.ofList_eq hnodup]
      constructor
      · rintro (_ | _ | more | ⟨_, _, entries⟩)
        · omega
        · omega
        · exact congrArg Except.ok (Table.ext entries)
      · rintro rfl
        exact .bound heq hvalues rfl
    · rw [if_neg (by omega), if_pos hgt]
      refine ⟨?_, fun h => h ▸ .tooMany hgt⟩
      rintro (_ | _ | more | same)
      · omega
      · rfl
      · omega

/-- For every function that was made and has a label, and for actuals of any number: binding finishes
    exactly if the actuals that have a formal, taken from left to right up to the first error, do.
    Each of them is evaluated once, with the variables that the caller had at the start, and these
    are there again in the end. The first error is the end. Without one the result is an error if
    there are fewer or more actuals than formals, and else the table of each formal with its
    value. -/
theorem bindArguments_in_turn {origin : Function.Origin} {formals body : Sexp} {fn : Function}
    {label : String} (hmake : Function.make origin formals body = .ok fn)
    (hlabel : fn.label = .ok label) (actuals : List Sexp) (m m' : Machine)
    (r : Except Error (Table Sexp)) :
    (∃ fuel, Call.bindArguments (evaluate fuel) fn (.ofList actuals) m = some (r, m')) ↔
      ∃ turns, InTurn (actuals.take (min fn.arity actuals.length)) m turns m' ∧
        turns.map Turn.expr <+: actuals ∧
        (∀ t ∈ turns, t.start.env.vars = m.env.vars) ∧ m'.env.vars = m.env.vars ∧
        BindingEnds fn label actuals.length (Turn.results turns) r := by
  rw [← List.take_eq_take_min]
  have hends : ∀ {turns}, InTurn (actuals.take fn.arity) m turns m' →
      (BindingEnds fn label actuals.length (Turn.results turns) r ↔
        r = (Turn.results turns).bind fun values =>
          Call.checkCount fn fn.arity actuals.length (.ofList (fn.params.zip values))) := by
    intro turns hturns
    apply bindingEnds_iff hlabel (Function.wellFormed_of_make hmake).distinct
    intro values hvalues
    rw [hturns.length_of_results hvalues, List.length_take]
  constructor
  · rintro ⟨fuel, hrun⟩
    rw [Call.bindArguments_run] at hrun
    obtain ⟨⟨results, m₁⟩, hall, hend⟩ := Option.map_eq_some_iff.1 hrun
    cases hend
    obtain ⟨turns, hturns, rfl⟩ := inTurn_of_evaluateAll hall
    obtain ⟨hstarts, hvars⟩ := hturns.vars_eq
    exact ⟨turns, hturns, hturns.isPrefix.trans (List.take_prefix _ _), hstarts, hvars,
      (hends hturns).2 rfl⟩
  · rintro ⟨turns, hturns, -, -, -, hend⟩
    obtain ⟨fuel, hall⟩ := hturns.evaluateAll
    refine ⟨fuel, ?_⟩
    rw [Call.bindArguments_run, hall fuel (Nat.le_refl fuel), (hends hturns).1 hend]
    rfl

/-- `F` has the formals `(X Y)`. For `(F (LIST X) X)` the second actual is the outer value of `X`, and
    for `(F (LIST X) X (CAR X))` the third one, which would fail, has no turn. -/
theorem bindArguments_in_turn_shadowed :
    let x : Sexp := .atom ⟨"X", by decide⟩
    let formals : Sexp := .list x [.atom ⟨"Y", by decide⟩]
    let list : Sexp := .list (.atom ⟨"LIST", by decide⟩) [x]
    let actuals : List Sexp := [list, x, .list (.atom ⟨"CAR", by decide⟩) [x]]
    let fn : Function := ⟨.named "F", ["X", "Y"], formals, .nil⟩
    let m : Machine := { env := { vars := Table.ofList [("X", .atom .t)] } }
    let table : Table Sexp := Table.ofList [("X", .list (.atom .t) []), ("Y", .atom .t)]
    Function.make (.named "F") formals .nil = .ok fn ∧ fn.label = .ok "F" ∧
      (∃ turns m', InTurn [list, x] m turns m' ∧ (∀ t ∈ turns, t.start.env.vars = m.env.vars) ∧
        BindingEnds fn "F" 2 (Turn.results turns) (.ok table)) ∧
      ∃ turns m', InTurn (actuals.take 2) m turns m' ∧
        BindingEnds fn "F" actuals.length (Turn.results turns) (.error (.tooManyArguments "F")) := by
  intro x formals list actuals fn m table
  have hmake : Function.make (.named "F") formals .nil = .ok fn := rfl
  have hlabel : fn.label = .ok "F" := rfl
  have htwo := (bindArguments_in_turn hmake hlabel [list, x] m _ _).1 ⟨3, rfl⟩
  have hthree := (bindArguments_in_turn hmake hlabel actuals m _ _).1 ⟨3, rfl⟩
  obtain ⟨turns, hturns, -, hstarts, -, hends⟩ := htwo
  obtain ⟨turns', hturns', -, -, -, hends'⟩ := hthree
  exact ⟨hmake, hlabel, ⟨turns, _, hturns, hstarts, hends⟩, turns', _, hturns', hends'⟩

/-! ## Anonymous functions -/

/-- The end of a computation, the text printed and the environment; the trace is left out. -/
def untraced : Except Error Sexp × Machine → Except Error Sexp × String × Environment
  | (r, m) => (r, m.output, m.env)

/-- What a computation does depends on the environment and the output only, if machines that differ
    in nothing else are the same to it. -/
theorem map_untraced_eq {x : Eval Sexp}
    (hsim : ∀ p q, Eval.Simulates (Machine.SameEnv p q) x x) {m n : Machine}
    (henv : n.env = m.env) (houtput : n.output = m.output) :
    (x m).map untraced = (x n).map untraced := by
  have hsame : Machine.SameEnv m.output m.output m n :=
    ⟨henv, "", String.append_empty.symm, by rw [houtput, String.append_empty]⟩
  have hsame' : Machine.SameEnv m.output m.output n m :=
    ⟨henv.symm, "", by rw [houtput, String.append_empty], String.append_empty.symm⟩
  refine (hsim _ _).map_eq hsame hsame' ?_
  rintro r m' n' - - ⟨henv', printed, hm', hn'⟩
  simp only [untraced, henv', hm', hn']

/-- A value that has the form of an anonymous function is applied as its own formals and body say,
    whatever anonymous functions are registered and whichever formals are pending, and whatever the
    actuals and the body register meanwhile: the end, the output and the environment are those of a
    call of the function itself, from the environment that has it under its formals and nothing
    pending. If formals or body are refused, this is the error, and the machine stays as it is. -/
theorem applyValue_runs_own_body {fn formals body : Sexp}
    (hform : fn.lambdaParts? = some (formals, body)) (args : List Sexp) (fuel : Nat) (m : Machine) :
    (∀ f, Function.make .anonymous formals body = .ok f →
      f.formals = formals ∧ f.body = body ∧
      ∀ n : Machine, n.output = m.output →
        n.env = { m.env with
          lambdas := m.env.lambdas.insert formals.render f, pending := none } →
        (applyValue (evaluate fuel) fn args m).map untraced =
          (Call.call (evaluate fuel) f (.ofList args) n).map untraced) ∧
    ∀ e, Function.make .anonymous formals body = .error e →
      applyValue (evaluate fuel) fn args m = some (.error e, m) := by
  have happly : applyValue (evaluate fuel) fn args =
      Call.applyLambda (evaluate fuel) formals body (.ofList args) := by
    obtain ⟨hlambda, head, hparts⟩ := Sexp.lambdaParts?_eq_some_iff.1 hform
    rw [applyValue, if_pos hlambda, Call.applyForm, hparts]
    rfl
  rw [happly, Call.applyLambda_run]
  refine ⟨?_, ?_⟩
  · intro f hmake
    obtain ⟨-, rfl, rfl, -⟩ := Function.make_eq_ok hmake
    refine ⟨rfl, rfl, ?_⟩
    intro n houtput henv
    rw [hmake]
    -- the call starts with the registration in its trace, which it does not see
    exact map_untraced_eq
      (fun p q => call_simulates (Machine.SameEnv.congruence p q) fuel f (.ofList args)) henv houtput
  · intro e hmake
    rw [hmake]

/-- `((LAMBDA (X) (CAR X)) ((LAMBDA (X) (LIST X X)) T))` where another function is registered for the
    formals `(X)`, which are pending: the actual registers one more for them, and yet the result is
    `T`. The formals `(X X)` are refused. -/
theorem applyValue_runs_own_body_reentrant :
    let x : Sexp := .atom ⟨"X", by decide⟩
    let formals : Sexp := .list x []
    let body : Sexp := .list (.atom ⟨"CAR", by decide⟩) [x]
    let fn : Sexp := .list (.atom .lambda) [formals, body]
    let inner : Sexp := .list (.atom .lambda)
      [formals, .list (.atom ⟨"LIST", by decide⟩) [x, x]]
    let args : List Sexp := [.list inner [.atom .t]]
    let f : Function := ⟨.anonymous, ["X"], formals, body⟩
    let m : Machine := { env :=
      { lambdas := Table.ofList [("(X)", ⟨.anonymous, ["X"], formals, .nil⟩)]
        pending := some formals } }
    let n : Machine := { env :=
      { m.env with lambdas := m.env.lambdas.insert formals.render f, pending := none } }
    let twice : Sexp := .list x [x]
    fn.lambdaParts? = some (formals, body) ∧ Function.make .anonymous formals body = .ok f ∧
      (applyValue (evaluate 4) fn args m).map (fun p => p.1.toOption.map Sexp.render) =
        some (some "T") ∧
      (applyValue (evaluate 4) fn args m).map untraced =
        (Call.call (evaluate 4) f (.ofList args) n).map untraced ∧
      applyValue (evaluate 4) (.list (.atom .lambda) [twice, body]) args m =
        some (.error (.duplicateParameter "X"), m) := by
  intro x formals body fn inner args f m n twice
  have hparts : ∀ formals body : Sexp,
      (Sexp.list (.atom .lambda) [formals, body]).lambdaParts? = some (formals, body) := by
    intro formals body
    rw [Sexp.lambdaParts?, if_pos (by decide +kernel)]
  have hmake : Function.make .anonymous formals body = .ok f := rfl
  have hrefused : Function.make .anonymous twice body = .error (.duplicateParameter "X") := rfl
  have hvalue : (applyValue (evaluate 4) fn args m).map (fun p => p.1.toOption.map Sexp.render) =
      some (some "T") := by
    decide +kernel
  refine ⟨hparts formals body, hmake, hvalue, ?_, ?_⟩
  · exact ((applyValue_runs_own_body (hparts formals body) args 4 m).1 f hmake).2.2 n rfl rfl
  · exact (applyValue_runs_own_body (hparts twice body) args 4 m).2 _ hrefused

end MiniLisp
