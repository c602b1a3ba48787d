import MiniLisp.Proofs.Evaluation.Bounds
import MiniLisp.Proofs.Evaluation.Restoration
import MiniLisp.Proofs.Evaluation.Target

/-! # Runs side by side

Two runs of the evaluator are compared through a relation between machines. If related machines look
the same to evaluation, and what evaluation does to both keeps them related, then every finished run
on one is followed by a run on the other that ends in the same way. Along the way the runs stay
within bounds: on the literals of the atoms that occur, on the names that are looked up, and on the
errors.

A law about single runs is the case of a machine that is related to itself. So this is the one place
where the evaluator is gone through case by case; that more fuel changes nothing, which errors can
occur and which atoms can come about are all read off it. -/

namespace MiniLisp

/-! ## Couplings -/

/-- A relation between machines that evaluation within bounds cannot tell apart: they have the same
    functions and the same values of variables that may be looked up, and every change that
    evaluation makes to both keeps the relation. -/
structure Coupling (R : Machine → Machine → Prop) (B : Bounds) : Prop where
  closed : B.Closed
  functions : ∀ {m n}, R m n → n.env.functions = m.env.functions
  lookup : ∀ {m n name}, R m n → B.name name → n.env.vars.get? name = m.env.vars.get? name
  value : ∀ {m n name} {v : Sexp}, R m n → B.name name → m.env.vars.get? name = some v →
    v.Over B.literals
  callable : ∀ {m n name fn}, R m n → m.env.functions.get? name = some fn → B.Callable fn
  substitute : ∀ {m n table}, R m n → B.HoldsOf table →
    R { m with env := m.env.substitute table } { n with env := n.env.substitute table }
  restore : ∀ {m n m' n'}, R m n → R m' n' →
    R { m' with env := { m'.env with vars := m.env.vars } }
      { n' with env := { n'.env with vars := n.env.vars } }
  print : ∀ {m n} {x : Sexp}, R m n → x.Over B.literals →
    R { m with output := m.output ++ (x.render ++ "\n") }
      { n with output := n.output ++ (x.render ++ "\n") }
  record : ∀ {m n}, R m n → ∀ event,
    R { m with trace := event :: m.trace } { n with trace := event :: n.trace }
  /-- The end of a scope reports the names that were not there before it. -/
  unbound : ∀ {m n m' n'}, R m n → R m' n' → ∀ names : List String,
    R { m' with trace := ((names.filter fun name => name ∉ m.env.vars.keys).map
          .variableUnbound).reverse ++ m'.trace }
      { n' with trace := ((names.filter fun name => name ∉ n.env.vars.keys).map
          .variableUnbound).reverse ++ n'.trace }
  addFunction : ∀ {m n name fn} {formals body : Sexp}, R m n →
    Environment.namedFunction name formals body = .ok fn → name ∈ B.literals →
    formals.Over B.literals → body.Over B.literals →
    R { m with env := m.env.addFunction name fn } { n with env := n.env.addFunction name fn }
  addLambda : ∀ {m n fn} {formals body : Sexp}, R m n →
    Function.make .anonymous formals body = .ok fn →
    formals.Over B.literals → body.Over B.literals →
    R { m with env := m.env.addLambda fn } { n with env := n.env.addLambda fn }
  settle : ∀ {m n}, R m n →
    R { m with env := { m.env with pending := none } }
      { n with env := { n.env with pending := none } }

/-- Whatever `x` does on one of two related machines when it finishes, `y` does on the other: it
    ends in the same way, with a value that has the property `Q` or an error within the bounds, and
    leaves related machines. -/
def Eval.Follows {α : Type} (R : Machine → Machine → Prop) (B : Bounds) (Q : α → Prop)
    (x y : Eval α) : Prop :=
  ∀ ⦃m n⦄, R m n → ∀ ⦃r m'⦄, x m = some (r, m') →
    Ends B.error Q r ∧ ∃ n', y n = some (r, n') ∧ R m' n'

/-- An evaluator that is followed by another one on expressions within the bounds. Both keep the
    variables. -/
structure Evaluator.Follows (R : Machine → Machine → Prop) (B : Bounds) (ev ev' : Evaluator) :
    Prop where
  eval : ∀ {x : Sexp}, x.Over B.literals → Eval.Follows R B (Sexp.Over B.literals) (ev x) (ev' x)
  left : ∀ x, Eval.KeepsVars (ev x)
  right : ∀ x, Eval.KeepsVars (ev' x)

variable {R : Machine → Machine → Prop} {B : Bounds} {ev ev' : Evaluator}

/-! ## Parts of computations -/

namespace Eval.Follows

variable {α β : Type} {P : α → Prop} {Q : β → Prop}

theorem ofExcept {r : Except Error α} (h : Ends B.error P r) :
    Follows R B P (Eval.ofExcept r) (Eval.ofExcept r) := by
  intro m n hmn r' m' hrun
  cases hrun
  exact ⟨h, n, rfl, hmn⟩

theorem pure {a : α} (h : P a) : Follows R B P (Pure.pure a) (Pure.pure a) :=
  ofExcept (r := .ok a) h

theorem raise {e : Error} (h : B.error e) : Follows R B P (Eval.raise e) (Eval.raise e) :=
  ofExcept (r := .error e) h

theorem bind {x y : Eval α} {f g : α → Eval β} (hxy : Follows R B P x y)
    (hfg : ∀ a, P a → Follows R B Q (f a) (g a)) : Follows R B Q (x >>= f) (y >>= g) := by
  intro m n hmn r m' h
  obtain ⟨e, hfail, rfl⟩ | ⟨a, m₁, hfirst, hsecond⟩ := bind_eq_some h
  · obtain ⟨hend, n', hn, hrel⟩ := hxy hmn hfail
    exact ⟨hend, n', by rw [run_bind, hn], hrel⟩
  · obtain ⟨hend, n₁, hn₁, hrel₁⟩ := hxy hmn hfirst
    obtain ⟨hend', n', hn, hrel⟩ := hfg a hend hrel₁ hsecond
    refine ⟨hend', n', ?_, hrel⟩
    rw [run_bind, hn₁]
    exact hn

theorem ite {c : Prop} [Decidable c] {x x' y y' : Eval α} (hx : Follows R B P x x')
    (hy : Follows R B P y y') : Follows R B P (if c then x else y) (if c then x' else y') := by
  split
  · exact hx
  · exact hy

end Eval.Follows

open Eval (Follows)

theorem applyNamed_run (ev : Evaluator) (name : String) (args : List Sexp) (m : Machine) :
    applyNamed ev name args m =
      (match m.env.target? name with
      | some target => applyTarget ev args target
      | none => Eval.raise (.undefinedFunction name)) m := rfl

namespace Coupling

variable (C : Coupling R B)
include C

theorem variableValue_follows {name : String} (hname : B.name name) :
    Follows R B (Sexp.Over B.literals) (Eval.variableValue name) (Eval.variableValue name) := by
  intro m n hmn r m' h
  have hsame : n.env.variableValue name = m.env.variableValue name := by
    rw [Environment.variableValue, Environment.variableValue, C.lookup hmn hname]
  have hend : Ends B.error (Sexp.Over B.literals) (m.env.variableValue name) := by
    rw [Environment.variableValue]
    split
    · next hvalue => exact C.value hmn hname hvalue
    · exact C.closed.error rfl
  change some (m.env.variableValue name, m) = some (r, m') at h
  cases h
  exact ⟨hend, n, congrArg (fun value => some (value, n)) hsame, hmn⟩

theorem record_follows (event : Event) :
    Follows R B (fun _ => True) (Eval.record event) (Eval.record event) := by
  intro m n hmn r m' h
  cases h
  exact ⟨trivial, _, rfl, C.record hmn event⟩

theorem print_follows (p : Primitive) {args : List Sexp} (hargs : ∀ x ∈ args, x.Over B.literals) :
    Follows R B (fun _ => True) (Eval.print (p.printed args)) (Eval.print (p.printed args)) := by
  intro m n hmn r m' h
  cases h
  refine ⟨trivial, _, rfl, ?_⟩
  obtain hnone | ⟨x, hx, hline⟩ := p.printed_cases args
  · simpa only [hnone, String.append_empty] using hmn
  · simpa only [hline] using C.print hmn (hargs x hx)

theorem invoke_follows (p : Primitive) {args : List Sexp} (hargs : ∀ x ∈ args, x.Over B.literals) :
    Follows R B (Sexp.Over B.literals) (Eval.invoke p (some (Sexp.ofList args)))
      (Eval.invoke p (some (Sexp.ofList args))) := by
  rw [Eval.invoke]
  simp only [Option.map_some, Option.getD_some, Sexp.items_ofList]
  split
  · next hcount =>
    apply Eval.Follows.bind (C.record_follows _)
    intro _ _
    apply Eval.Follows.bind (C.print_follows p hargs)
    intro _ _
    have hvalue := Primitive.apply_over C.closed.literals hcount hargs
    exact .ofExcept (hvalue.mono fun e => C.closed.error_of_arguments)
  · exact .raise (C.closed.error rfl)

theorem registerFunction_follows {name : String} {formals body : Sexp} (hname : name ∈ B.literals)
    (hformals : formals.Over B.literals) (hbody : body.Over B.literals) :
    Follows R B (fun _ => True) (Eval.registerFunction name formals body)
      (Eval.registerFunction name formals body) := by
  intro m n hmn r m' h
  rw [Eval.registerFunction_run] at h ⊢
  cases hmake : Environment.namedFunction name formals body with
  | error e =>
    rw [hmake] at h
    cases h
    exact ⟨C.closed.error_of_making (Environment.kind_of_namedFunction hmake), n, rfl, hmn⟩
  | ok fn =>
    rw [hmake] at h
    cases h
    exact ⟨trivial, _, rfl, C.record (C.addFunction hmn hmake hname hformals hbody) _⟩

theorem registerLambda_follows {formals body : Sexp} (hformals : formals.Over B.literals)
    (hbody : body.Over B.literals) :
    Follows R B (fun _ => True) (Eval.registerLambda formals body)
      (Eval.registerLambda formals body) := by
  intro m n hmn r m' h
  rw [Eval.registerLambda_run] at h ⊢
  cases hmake : Function.make .anonymous formals body with
  | error e =>
    rw [hmake] at h
    cases h
    exact ⟨C.closed.error_of_making (Function.kind_of_make hmake), n, rfl, hmn⟩
  | ok fn =>
    rw [hmake] at h
    cases h
    exact ⟨trivial, _, rfl, C.record (C.addLambda hmn hmake hformals hbody) _⟩

/-! ## Calls -/

omit C in
theorem evaluateAll_follows (hev : Evaluator.Follows R B ev ev') {xs : List Sexp}
    (hxs : ∀ x ∈ xs, x.Over B.literals) :
    Follows R B (fun values => ∀ v ∈ values, v.Over B.literals) (Call.evaluateAll ev xs)
      (Call.evaluateAll ev' xs) := by
  induction xs with
  | nil => exact .pure nofun
  | cons x xs ih =>
    apply Eval.Follows.bind (hev.eval (hxs x List.mem_cons_self))
    intro value hvalue
    apply Eval.Follows.bind (ih fun y hy => hxs y (List.mem_cons_of_mem x hy))
    intro values hvalues
    refine .pure fun v hv => ?_
    rcases List.mem_cons.1 hv with rfl | hv
    · exact hvalue
    · exact hvalues v hv

omit C in
theorem bindParams_follows (hev : Evaluator.Follows R B ev ev') {fn : Function}
    (hfn : B.Callable fn) (params : List String) {actuals : List Sexp}
    (hactuals : ∀ x ∈ actuals, x.Over B.literals) {table : Table Sexp}
    (htable : B.HoldsOf table) :
    Follows R B B.HoldsOf (Call.bindParams ev fn params actuals table)
      (Call.bindParams ev' fn params actuals table) := by
  induction params generalizing actuals table with
  | nil =>
    cases actuals with
    | nil => exact .pure htable
    | cons actual actuals => exact .raise hfn.tooMany
  | cons param params ih =>
    cases actuals with
    | nil => exact .raise hfn.tooFew
    | cons actual actuals =>
      apply Eval.Follows.bind (hev.eval (hactuals actual List.mem_cons_self))
      intro value hvalue
      exact ih (fun x hx => hactuals x (List.mem_cons_of_mem actual hx))
        (htable.insert param hvalue)

omit C in
/-- Actuals that are a list are never refused for being none. -/
theorem bindArguments_follows (hev : Evaluator.Follows R B ev ev') {fn : Function}
    (hfn : B.Callable fn) {actuals : Sexp} (hactuals : actuals.Over B.literals)
    (hlist : actuals.isListOrNil = true ∨ B.error (fn.labelError .invalidActuals)) :
    Follows R B B.HoldsOf (Call.bindArguments ev fn actuals)
      (Call.bindArguments ev' fn actuals) := by
  cases actuals with
  | atom a =>
    apply Eval.Follows.ite
    · exact .pure Bounds.holdsOf_empty
    · rw [show Sexp.isListOrNil (.atom a) = a.isNil from rfl] at hlist
      split
      · exact .raise hfn.tooFew
      · next hnil => exact .raise (hlist.resolve_left hnil)
  | list head tail =>
    exact bindParams_follows hev hfn fn.params (Sexp.over_list.1 hactuals) Bounds.holdsOf_empty

theorem call_follows (hev : Evaluator.Follows R B ev ev') {fn : Function} (hfn : B.Callable fn)
    {actuals : Sexp} (hactuals : actuals.Over B.literals)
    (hlist : actuals.isListOrNil = true ∨ B.error (fn.labelError .invalidActuals)) :
    Follows R B (Sexp.Over B.literals) (Call.call ev fn actuals) (Call.call ev' fn actuals) := by
  apply Eval.Follows.bind (bindArguments_follows hev hfn hactuals hlist)
  intro bindings hbindings m n hmn r m' h
  change Eval.ensuring (ev fn.body) (Eval.setVariables m.env.vars)
    { m with env := m.env.substitute bindings } = some (r, m') at h
  obtain ⟨r₁, m₁, hrun, ⟨e, hset, -⟩ | ⟨hset, rfl⟩⟩ := Eval.ensuring_eq_some h
  · cases hset
  · cases hset
    obtain ⟨hend, n₁, hrun', hrel⟩ := hev.eval hfn.body (C.substitute hmn hbindings) hrun
    have hset' : Eval.setVariables n.env.vars n₁ = some (.ok (), { n₁ with
        env := { n₁.env with vars := n.env.vars } }) := rfl
    exact ⟨hend, _, Eval.ensuring_of_ok hrun' hset', C.restore hmn hrel⟩

/-- The actuals of a call come as a list of any length. -/
theorem callList_follows (hev : Evaluator.Follows R B ev ev') {fn : Function} (hfn : B.Callable fn)
    {actuals : List Sexp} (hactuals : ∀ x ∈ actuals, x.Over B.literals) :
    Follows R B (Sexp.Over B.literals) (Call.call ev fn (Sexp.ofList actuals))
      (Call.call ev' fn (Sexp.ofList actuals)) :=
  C.call_follows hev hfn (Sexp.over_ofList C.closed.literals.nil_mem hactuals)
    (Or.inl (Sexp.isListOrNil_ofList actuals))

theorem applyLambda_follows (hev : Evaluator.Follows R B ev ev') {formals body : Sexp}
    (hformals : formals.Over B.literals) (hbody : body.Over B.literals) {actuals : List Sexp}
    (hactuals : ∀ x ∈ actuals, x.Over B.literals) :
    Follows R B (Sexp.Over B.literals) (Call.applyLambda ev formals body (Sexp.ofList actuals))
      (Call.applyLambda ev' formals body (Sexp.ofList actuals)) := by
  intro m n hmn r m' h
  rw [Call.applyLambda_run] at h ⊢
  cases hmake : Function.make .anonymous formals body with
  | error e =>
    rw [hmake] at h
    cases h
    exact ⟨C.closed.error_of_making (Function.kind_of_make hmake), n, rfl, hmn⟩
  | ok fn =>
    rw [hmake] at h
    have hregistered := C.record (C.settle (C.addLambda hmn hmake hformals hbody))
      (.lambdaRegistered fn)
    have hfn := C.closed.callable_of_make hmake nofun hbody
    exact C.callList_follows hev hfn hactuals hregistered h

/-- What passed as the form of an anonymous function can be taken apart. -/
theorem applyForm_follows (hev : Evaluator.Follows R B ev ev') {form : Sexp}
    (hform : form.Over B.literals) (hlambda : form.isLambdaForm = true) {actuals : List Sexp}
    (hactuals : ∀ x ∈ actuals, x.Over B.literals) :
    Follows R B (Sexp.Over B.literals) (Call.applyForm ev form (Sexp.ofList actuals))
      (Call.applyForm ev' form (Sexp.ofList actuals)) := by
  obtain ⟨a, formals, body, rfl, -⟩ := Sexp.isLambdaForm_iff_exists.1 hlambda
  rw [Call.applyForm_list, Call.applyForm_list]
  exact C.applyLambda_follows hev (hform.tail formals (by simp)) (hform.tail body (by simp)) hactuals

/-! ## Special forms -/

theorem evaluateQuote_follows {args : List Sexp} (hargs : ∀ x ∈ args, x.Over B.literals) :
    Follows R B (Sexp.Over B.literals) (SpecialForm.evaluateQuote args)
      (SpecialForm.evaluateQuote args) := by
  rw [SpecialForm.evaluateQuote.eq_def]
  split
  · next x => exact .pure (hargs x (by simp))
  · exact .raise (C.closed.error rfl)

/-- Clauses that passed the check can be taken apart. -/
theorem evaluateClauses_follows (hev : Evaluator.Follows R B ev ev') {clauses : List Sexp}
    (hclauses : ∀ c ∈ clauses, c.Over B.literals) (hlists : ∀ c ∈ clauses, c.isListOf 2 = true) :
    Follows R B (Sexp.Over B.literals) (SpecialForm.evaluateClauses ev clauses)
      (SpecialForm.evaluateClauses ev' clauses) := by
  induction clauses with
  | nil => exact .raise (C.closed.error rfl)
  | cons clause rest ih =>
    rw [List.forall_mem_cons] at hclauses hlists
    obtain ⟨test, expr, rfl⟩ := Sexp.eq_list_of_isListOf hlists.1
    rw [SpecialForm.evaluateClauses_cons, SpecialForm.evaluateClauses_cons]
    apply Eval.Follows.bind (hev.eval hclauses.1.head)
    intro value _
    exact .ite (ih hclauses.2 hlists.2) (hev.eval hclauses.1.second)

theorem evaluateDefun_follows {args : List Sexp} (hargs : ∀ x ∈ args, x.Over B.literals) :
    Follows R B (Sexp.Over B.literals) (SpecialForm.evaluateDefun args)
      (SpecialForm.evaluateDefun args) := by
  rw [SpecialForm.evaluateDefun.eq_def]
  split
  · next name formals body =>
    have hname := hargs name (by simp)
    cases hsymbol : name.symbol? with
    | none => exact .raise (C.closed.error rfl)
    | some s =>
      apply Eval.Follows.bind (C.registerFunction_follows (hname.symbol? hsymbol)
        (hargs formals (by simp)) (hargs body (by simp)))
      intro _ _
      exact .pure hname
  · exact .raise (C.closed.error rfl)

theorem evaluateLambda_follows {args : List Sexp} (hargs : ∀ x ∈ args, x.Over B.literals) :
    Follows R B (Sexp.Over B.literals) (SpecialForm.evaluateLambda args)
      (SpecialForm.evaluateLambda args) := by
  rw [SpecialForm.evaluateLambda.eq_def]
  split
  · next formals body =>
    apply Eval.Follows.bind
      (C.registerLambda_follows (hargs formals (by simp)) (hargs body (by simp)))
    intro _ _
    -- the rest of the form is a list, so it can be put behind the name
    rw [Sexp.cons_ofList]
    refine .ofExcept (Sexp.over_list.2 fun x hx => ?_)
    rcases List.mem_cons.1 hx with rfl | hx
    · exact Sexp.over_atom.2 C.closed.literals.lambda_mem
    · exact hargs x hx
  · exact .raise (C.closed.error rfl)

theorem evaluateBindings_follows (hev : Evaluator.Follows R B ev ev') {specs : List Sexp}
    (hspecs : ∀ x ∈ specs, x.Over B.literals) {table : Table Sexp} (htable : B.HoldsOf table) :
    Follows R B B.HoldsOf (SpecialForm.evaluateBindings ev specs table)
      (SpecialForm.evaluateBindings ev' specs table) := by
  induction specs generalizing table with
  | nil => exact .pure htable
  | cons binding rest ih =>
    rw [List.forall_mem_cons] at hspecs
    by_cases hlist : binding.isListOf 2 = true
    · obtain ⟨name, expr, rfl⟩ := Sexp.eq_list_of_isListOf hlist
      rw [SpecialForm.evaluateBindings_cons, SpecialForm.evaluateBindings_cons]
      cases name.symbol? with
      | none => exact .raise (C.closed.error rfl)
      | some s =>
        apply Eval.Follows.bind (hev.eval hspecs.1.second)
        intro value hvalue
        exact ih hspecs.2 (htable.insert s hvalue)
    · rw [SpecialForm.evaluateBindings_of_not_isListOf hlist,
        SpecialForm.evaluateBindings_of_not_isListOf hlist]
      exact .raise (C.closed.error rfl)

theorem evaluateLet_follows (hev : Evaluator.Follows R B ev ev') {args : List Sexp}
    (hargs : ∀ x ∈ args, x.Over B.literals) :
    Follows R B (Sexp.Over B.literals) (SpecialForm.evaluateLet ev args)
      (SpecialForm.evaluateLet ev' args) := by
  rw [SpecialForm.evaluateLet.eq_def, SpecialForm.evaluateLet.eq_def]
  split
  · next specs body =>
    apply Eval.Follows.bind (C.evaluateBindings_follows hev (hargs specs (by simp)).items
      Bounds.holdsOf_empty)
    intro bindings hbindings m n hmn r m' h
    change Eval.ensuring (ev body) (SpecialForm.endScope bindings
      (m.env.vars.restrict bindings.keys)) { m with env := m.env.substitute bindings } =
        some (r, m') at h
    obtain ⟨r₁, m₁, hrun, hscope⟩ := Eval.ensuring_eq_some h
    obtain ⟨hend, n₁, hrun', hrel⟩ :=
      hev.eval (hargs body (by simp)) (C.substitute hmn hbindings) hrun
    -- both bodies kept the variables, so both scopes end as `endScope_run` says
    have hinner : m₁.env.vars = m.env.vars.merge bindings := hev.left body hrun
    have hinner' : n₁.env.vars = n.env.vars.merge bindings := hev.right body hrun'
    rw [SpecialForm.endScope_run hinner] at hscope
    obtain ⟨e, hfail, -⟩ | ⟨hdone, rfl⟩ := hscope
    · cases hfail
    · cases hdone
      exact ⟨hend, _, Eval.ensuring_of_ok hrun' (SpecialForm.endScope_run hinner'),
        C.unbound hmn (C.restore hmn hrel) bindings.keys⟩
  · exact .raise (C.closed.error rfl)

theorem specialForm_follows (hev : Evaluator.Follows R B ev ev') (form : SpecialForm)
    {args : List Sexp} (hargs : ∀ x ∈ args, x.Over B.literals) :
    Follows R B (Sexp.Over B.literals) (form.evaluate ev args) (form.evaluate ev' args) := by
  cases form with
  | quote => exact C.evaluateQuote_follows hargs
  | cond =>
    have hcheck := SpecialForm.checkClauses_ends args
    apply Eval.Follows.bind (.ofExcept (hcheck.mono fun e => C.closed.error))
    intro _ hlists
    exact C.evaluateClauses_follows hev hargs hlists
  | defun => exact C.evaluateDefun_follows hargs
  | lambda => exact C.evaluateLambda_follows hargs
  | letForm => exact C.evaluateLet_follows hev hargs

/-! ## Evaluation -/

theorem target_over {m n : Machine} (hmn : R m n) {name : String} (hname : B.name name)
    {target : Target} (h : m.env.target? name = some target) : B.TargetOver target := by
  cases Environment.target?_eq_some_iff.1 h with
  | special => trivial
  | function _ hfn => exact C.callable hmn hfn
  | primitive => trivial
  | lambda _ _ _ hvalue hlambda => exact ⟨C.value hmn hname hvalue, hlambda⟩

theorem applyTarget_follows (hev : Evaluator.Follows R B ev ev') {args : List Sexp}
    (hargs : ∀ x ∈ args, x.Over B.literals) {target : Target} (htarget : B.TargetOver target) :
    Follows R B (Sexp.Over B.literals) (applyTarget ev args target)
      (applyTarget ev' args target) := by
  cases target with
  | special form => exact C.specialForm_follows hev form hargs
  | function fn => exact C.callList_follows hev htarget hargs
  | primitive p =>
    apply Eval.Follows.bind (evaluateAll_follows hev hargs)
    intro values hvalues
    exact C.invoke_follows p hvalues
  | lambda form => exact C.applyForm_follows hev htarget.1 htarget.2 hargs

theorem applyNamed_follows (hev : Evaluator.Follows R B ev ev') {name : String}
    (hname : B.name name) {args : List Sexp} (hargs : ∀ x ∈ args, x.Over B.literals) :
    Follows R B (Sexp.Over B.literals) (applyNamed ev name args) (applyNamed ev' name args) := by
  intro m n hmn r m' h
  have hsame : n.env.target? name = m.env.target? name := by
    rw [Environment.target?, Environment.target?, C.functions hmn, C.lookup hmn hname]
  rw [applyNamed_run] at h ⊢
  rw [hsame]
  cases htarget : m.env.target? name with
  | none =>
    rw [htarget] at h
    exact Eval.Follows.raise (C.closed.error rfl) hmn h
  | some target =>
    rw [htarget] at h
    exact C.applyTarget_follows hev hargs (C.target_over hmn hname htarget) hmn h

theorem applyValue_follows (hev : Evaluator.Follows R B ev ev') {fn : Sexp}
    (hfn : fn.Over B.literals) {args : List Sexp} (hargs : ∀ x ∈ args, x.Over B.literals) :
    Follows R B (Sexp.Over B.literals) (applyValue ev fn args) (applyValue ev' fn args) := by
  rw [applyValue, applyValue]
  split
  · next hlambda => exact C.applyForm_follows hev hfn hlambda hargs
  · exact .raise (C.closed.error rfl)

/-- One step is followed by one step if the evaluators for the parts follow each other. -/
theorem step_follows (hev : Evaluator.Follows R B ev ev') {x : Sexp} (hx : x.Over B.literals) :
    Follows R B (Sexp.Over B.literals) (step ev x) (step ev' x) := by
  cases x with
  | atom a =>
    rw [step, step]
    split
    · exact .pure hx
    · next hvariable =>
      have hname := C.closed.name (Sexp.over_atom.1 hx) (by simpa using hvariable)
      exact C.variableValue_follows hname
  | list head args =>
    cases head with
    | atom a =>
      rw [step, step]
      split
      · exact .raise (C.closed.error rfl)
      · next hvariable =>
        have hname := C.closed.name (Sexp.over_atom.1 hx.head) (by simpa using hvariable)
        exact C.applyNamed_follows hev hname hx.tail
    | list head tail =>
      apply Eval.Follows.bind (hev.eval hx.head)
      intro fn hfn
      exact C.applyValue_follows hev hfn hx.tail

/-- An evaluation on one machine is followed, with at least as much fuel, by an evaluation on a
    related one. -/
theorem evaluate_follows {fuel fuel' : Nat} (hle : fuel ≤ fuel') {x : Sexp}
    (hx : x.Over B.literals) :
    Follows R B (Sexp.Over B.literals) (evaluate fuel x) (evaluate fuel' x) := by
  induction fuel generalizing fuel' x with
  | zero => intro m n _ r m' h; cases h
  | succ fuel ih =>
    obtain ⟨k, rfl⟩ : ∃ k, fuel' = k + 1 := ⟨fuel' - 1, by omega⟩
    have hev : Evaluator.Follows R B (evaluate fuel) (evaluate k) := by
      refine ⟨?_, evaluate_keepsVars fuel, evaluate_keepsVars k⟩
      intro y hy
      exact ih (by omega) hy
    exact C.step_follows hev hx

end Coupling

/-! ## Single runs -/

/-- A law about single runs: bounds, a property of the entries in the table of functions, and one of
    the output. Definitions and printed lines within the bounds keep it. -/
structure Invariant where
  bounds : Bounds
  function : String → Function → Prop
  output : String → Prop
  closed : bounds.Closed
  callable : ∀ {name fn}, function name fn → bounds.Callable fn
  defined : ∀ {name fn} {formals body : Sexp},
    Environment.namedFunction name formals body = .ok fn → name ∈ bounds.literals →
    formals.Over bounds.literals → body.Over bounds.literals → function name fn
  printed : ∀ {text} {x : Sexp}, output text → x.Over bounds.literals →
    output (text ++ (x.render ++ "\n"))

namespace Invariant

/-- The law holds of a machine. -/
structure Holds (I : Invariant) (m : Machine) : Prop where
  value : ∀ {name} {v : Sexp}, m.env.vars.get? name = some v → v.Over I.bounds.literals
  function : ∀ {name fn}, m.env.functions.get? name = some fn → I.function name fn
  output : I.output m.output

variable {I : Invariant} {m : Machine}

theorem Holds.substitute (h : I.Holds m) {table : Table Sexp}
    (htable : I.bounds.HoldsOf table) : I.Holds { m with env := m.env.substitute table } := by
  have hvars : I.bounds.HoldsOf m.env.vars := fun _ _ => h.value
  exact ⟨(hvars.merge htable) _ _, h.function, h.output⟩

theorem Holds.addFunction (h : I.Holds m) {name : String} {fn : Function}
    (hfn : I.function name fn) : I.Holds { m with env := m.env.addFunction name fn } := by
  refine ⟨h.value, ?_, h.output⟩
  intro other fn' hfn'
  rw [Environment.addFunction, Table.get?_insert] at hfn'
  split at hfn'
  · next heq =>
    cases hfn'
    exact heq ▸ hfn
  · exact h.function hfn'

/-- A machine of which the law holds goes with itself. -/
theorem coupling (I : Invariant) : Coupling (fun m n => n = m ∧ I.Holds m) I.bounds where
  closed := I.closed
  functions := by rintro m _ ⟨rfl, _⟩; rfl
  lookup := by rintro m _ name ⟨rfl, _⟩ _; rfl
  value := by rintro m _ name v ⟨rfl, h⟩ _ hv; exact h.value hv
  callable := by rintro m _ name fn ⟨rfl, h⟩ hfn; exact I.callable (h.function hfn)
  substitute := by rintro m _ table ⟨rfl, h⟩ htable; exact ⟨rfl, h.substitute htable⟩
  restore := by
    rintro m _ m' _ ⟨rfl, h⟩ ⟨rfl, h'⟩
    exact ⟨rfl, h.value, h'.function, h'.output⟩
  print := by
    rintro m _ x ⟨rfl, h⟩ hx
    exact ⟨rfl, h.value, h.function, I.printed h.output hx⟩
  record := by rintro m _ ⟨rfl, h⟩ event; exact ⟨rfl, h.value, h.function, h.output⟩
  unbound := by
    rintro m _ m' _ ⟨rfl, _⟩ ⟨rfl, h'⟩ names
    exact ⟨rfl, h'.value, h'.function, h'.output⟩
  addFunction := by
    rintro m _ name fn formals body ⟨rfl, h⟩ hmake hname hformals hbody
    exact ⟨rfl, h.addFunction (I.defined hmake hname hformals hbody)⟩
  addLambda := by
    rintro m _ fn formals body ⟨rfl, h⟩ _ _ _
    exact ⟨rfl, h.value, h.function, h.output⟩
  settle := by rintro m _ ⟨rfl, h⟩; exact ⟨rfl, h.value, h.function, h.output⟩

/-- An evaluation keeps the law, and ends within the bounds. -/
theorem Holds.evaluate (hm : I.Holds m) {fuel : Nat} {x : Sexp} (hx : x.Over I.bounds.literals)
    {r : Except Error Sexp} {m' : Machine} (h : evaluate fuel x m = some (r, m')) :
    Ends I.bounds.error (Sexp.Over I.bounds.literals) r ∧ I.Holds m' := by
  obtain ⟨hend, _, -, -, hm'⟩ := I.coupling.evaluate_follows (Nat.le_refl fuel) hx ⟨rfl, hm⟩ h
  exact ⟨hend, hm'⟩

end Invariant

end MiniLisp
