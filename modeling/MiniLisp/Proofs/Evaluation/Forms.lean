import Mathlib.Data.Set.List
import MiniLisp.Proofs.Evaluation.Rules

/-! # Conditionals and local bindings

A conditional looks at the form of all its clauses before it evaluates anything, and then stops at
the first test that decides. Local bindings are looked at one by one, between the evaluations of
their expressions; so what comes before a malformed one is evaluated, and the body is not. -/

namespace MiniLisp.SpecialForm

/-- In a list whose elements do not all have a property, there is a first one without it. -/
theorem exists_first_without {α : Type} {p : α → Prop} {xs : List α} (h : ¬ ∀ x ∈ xs, p x) :
    ∃ before x after, xs = before ++ x :: after ∧ (∀ y ∈ before, p y) ∧ ¬ p x := by
  classical
  have hfound : (xs.find? fun x => ¬ p x).isSome := by simpa using h
  obtain ⟨x, hx⟩ := Option.isSome_iff_exists.1 hfound
  obtain ⟨hnot, before, after, hxs, hbefore⟩ := List.find?_eq_some_iff_append.1 hx
  exact ⟨before, x, after, hxs, by simpa using hbefore, by simpa using hnot⟩

/-- A form under its name finishes as the form does, with one step more. -/
theorem evaluates_symbol_iff (f : SpecialForm) {args : List Sexp} {m m' : Machine}
    {r : Except Error Sexp} :
    Evaluates (.list (.atom f.symbol) args) m r m' ↔
      ∃ fuel, f.evaluate (MiniLisp.evaluate fuel) args m = some (r, m') := by
  constructor
  · rintro ⟨_ | fuel, hrun⟩
    · cases hrun
    · exact ⟨fuel, (f.evaluate_symbol fuel args m).symm.trans hrun⟩
  · rintro ⟨fuel, hrun⟩
    exact ⟨fuel + 1, (f.evaluate_symbol fuel args m).trans hrun⟩

/-! ## Conditionals -/

/-- Tests are evaluated from left to right, each on the machine that the one before it left, and
    all of them give `NIL`. -/
inductive AllNil : List Sexp → Machine → Machine → Prop where
  | nil (m : Machine) : AllNil [] m m
  | cons {test : Sexp} {tests : List Sexp} {m m₁ m' : Machine}
      (head : Evaluates test m (.ok .nil) m₁) (tail : AllNil tests m₁ m') :
      AllNil (test :: tests) m m'

/-- How clauses decide: by the first of them whose test does not give `NIL`, with the value of its
    expression or with the error of the test, or by none. Nothing is evaluated but the tests up to
    that clause and its expression. -/
inductive Decides (cs : List (Sexp × Sexp)) (m : Machine) :
    Option (Sexp × Sexp) → Except Error Sexp → Machine → Prop where
  | holds {before after : List (Sexp × Sexp)} {c : Sexp × Sexp} {v : Sexp}
      {r : Except Error Sexp} {m₁ m₂ m' : Machine} (split : cs = before ++ c :: after)
      (nils : AllNil (before.map Prod.fst) m m₁) (test : Evaluates c.1 m₁ (.ok v) m₂)
      (value : v ≠ .nil) (expr : Evaluates c.2 m₂ r m') : Decides cs m (some c) r m'
  | fails {before after : List (Sexp × Sexp)} {c : Sexp × Sexp} {e : Error} {m₁ m' : Machine}
      (split : cs = before ++ c :: after) (nils : AllNil (before.map Prod.fst) m m₁)
      (test : Evaluates c.1 m₁ (.error e) m') : Decides cs m (some c) (.error e) m'
  | undecided {m' : Machine} (nils : AllNil (cs.map Prod.fst) m m') :
      Decides cs m none (.error .noClauseHolds) m'

/-- Where all tests give `NIL`, so does each of them once those before it did. -/
theorem AllNil.reached {before after : List Sexp} {test : Sexp} {m m₁ m₂ m' : Machine}
    {r : Except Error Sexp} (hbefore : AllNil before m m₁) (htest : Evaluates test m₁ r m₂)
    (hall : AllNil (before ++ test :: after) m m') : r = .ok .nil := by
  induction hbefore with
  | nil m =>
    cases hall with
    | cons head _ => exact (htest.unique head).1
  | cons head _ ih =>
    cases hall with
    | cons head' tail' =>
      obtain ⟨-, rfl⟩ := head.unique head'
      exact ih htest tail'

section

variable {test expr : Sexp} {cs : List (Sexp × Sexp)} {m m' : Machine} {r : Except Error Sexp}

theorem evaluates_condForm_nil :
    Evaluates (condForm []) m r m' ↔ r = .error .noClauseHolds ∧ m' = m := by
  constructor
  · rintro ⟨_ | fuel, hrun⟩
    · cases hrun
    · rw [evaluate_condForm_nil] at hrun
      cases hrun
      exact ⟨rfl, rfl⟩
  · rintro ⟨rfl, rfl⟩
    exact ⟨1, evaluate_condForm_nil 0 m'⟩

/-- What the first clause does: its test fails, or gives `NIL` and leaves the decision to the others,
    or holds and decides for its expression. -/
theorem evaluates_condForm_cons :
    Evaluates (condForm ((test, expr) :: cs)) m r m' ↔
      (∃ e, Evaluates test m (.error e) m' ∧ r = .error e) ∨
      (∃ m₁, Evaluates test m (.ok .nil) m₁ ∧ Evaluates (condForm cs) m₁ r m') ∨
      ∃ v m₁, Evaluates test m (.ok v) m₁ ∧ v ≠ .nil ∧ Evaluates expr m₁ r m' := by
  constructor
  · rintro ⟨_ | fuel, hrun⟩
    · cases hrun
    · rw [evaluate_condForm_cons] at hrun
      obtain ⟨e, htest, rfl⟩ | ⟨v, m₁, htest, hrest⟩ := Eval.bind_eq_some hrun
      · exact Or.inl ⟨e, ⟨fuel, htest⟩, rfl⟩
      · right
        split at hrest
        · next hv =>
          rw [Sexp.isNil_iff.1 hv] at htest
          exact Or.inl ⟨m₁, ⟨fuel, htest⟩, fuel + 1, hrest⟩
        · next hv =>
          exact Or.inr ⟨v, m₁, ⟨fuel, htest⟩, fun h => hv (Sexp.isNil_iff.2 h), fuel, hrest⟩
  · rintro (⟨e, ⟨fuel, htest⟩, rfl⟩ | ⟨m₁, ⟨fuel₁, htest⟩, fuel₂, hrest⟩ |
      ⟨v, m₁, ⟨fuel₁, htest⟩, hv, fuel₂, hexpr⟩)
    · refine ⟨fuel + 1, ?_⟩
      rw [evaluate_condForm_cons, Eval.run_bind, htest]
    · refine ⟨max fuel₁ fuel₂ + 1, ?_⟩
      rw [evaluate_condForm_cons, Eval.run_bind,
        evaluate_mono (Nat.le_max_left fuel₁ fuel₂) htest]
      simp only [Sexp.isNil_iff.2 rfl, if_true]
      exact evaluate_mono (by omega) hrest
    · refine ⟨max fuel₁ fuel₂ + 1, ?_⟩
      rw [evaluate_condForm_cons, Eval.run_bind,
        evaluate_mono (Nat.le_max_left fuel₁ fuel₂) htest]
      simp only [if_neg (mt Sexp.isNil_iff.1 hv)]
      exact evaluate_mono (Nat.le_max_right fuel₁ fuel₂) hexpr

/-- Clauses whose tests give `NIL` leave the decision to the clauses after them. -/
theorem AllNil.evaluates_condForm_append {before : List (Sexp × Sexp)} {m₁ : Machine}
    (hbefore : AllNil (before.map Prod.fst) m m₁) (hrest : Evaluates (condForm cs) m₁ r m') :
    Evaluates (condForm (before ++ cs)) m r m' := by
  induction before generalizing m with
  | nil =>
    cases hbefore
    exact hrest
  | cons c before ih =>
    cases hbefore with
    | cons head tail => exact evaluates_condForm_cons.2 (Or.inr (Or.inl ⟨_, head, ih tail⟩))

/-- A clause in front whose test gives `NIL` does not change how the others decide. -/
theorem Decides.cons {c : Option (Sexp × Sexp)} {m₁ : Machine}
    (htest : Evaluates test m (.ok .nil) m₁) (h : Decides cs m₁ c r m') :
    Decides ((test, expr) :: cs) m c r m' := by
  cases h with
  | @holds before after c _ _ _ _ _ split nils test' value expr' =>
    have hsplit : (test, expr) :: cs = ((test, expr) :: before) ++ c :: after := by
      rw [split]
      rfl
    exact .holds hsplit (.cons htest nils) test' value expr'
  | @fails before after c _ _ _ split nils test' =>
    have hsplit : (test, expr) :: cs = ((test, expr) :: before) ++ c :: after := by
      rw [split]
      rfl
    exact .fails hsplit (.cons htest nils) test'
  | undecided nils => exact .undecided (.cons htest nils)

/-- Conditionals finish exactly as their clauses decide. -/
theorem evaluates_condForm_iff : Evaluates (condForm cs) m r m' ↔ ∃ c, Decides cs m c r m' := by
  constructor
  · intro h
    induction cs generalizing m with
    | nil =>
      obtain ⟨rfl, rfl⟩ := evaluates_condForm_nil.1 h
      exact ⟨_, .undecided (.nil m')⟩
    | cons clause cs ih =>
      obtain ⟨test, expr⟩ := clause
      have hsplit : (test, expr) :: cs = [] ++ (test, expr) :: cs := rfl
      obtain ⟨e, htest, rfl⟩ | ⟨m₁, htest, hrest⟩ | ⟨v, m₁, htest, hv, hexpr⟩ :=
        evaluates_condForm_cons.1 h
      · exact ⟨_, .fails hsplit (.nil m) htest⟩
      · obtain ⟨c, hc⟩ := ih hrest
        exact ⟨c, hc.cons htest⟩
      · exact ⟨_, .holds hsplit (.nil m) htest hv hexpr⟩
  · rintro ⟨c, hdecides⟩
    cases hdecides with
    | holds split nils test value expr =>
      rw [split]
      exact nils.evaluates_condForm_append
        (evaluates_condForm_cons.2 (Or.inr (Or.inr ⟨_, _, test, value, expr⟩)))
    | fails split nils test =>
      rw [split]
      exact nils.evaluates_condForm_append (evaluates_condForm_cons.2 (Or.inl ⟨_, test, rfl⟩))
    | undecided nils =>
      have hrest : Evaluates (condForm []) m' (.error .noClauseHolds) m' :=
        evaluates_condForm_nil.2 ⟨rfl, rfl⟩
      simpa using nils.evaluates_condForm_append hrest

/-- The clauses decide by none of them exactly if every test gives `NIL`. -/
theorem Decides.eq_none_iff {c : Option (Sexp × Sexp)} (h : Decides cs m c r m') :
    c = none ↔ ∃ m₁, AllNil (cs.map Prod.fst) m m₁ := by
  constructor
  · rintro rfl
    cases h with
    | undecided nils => exact ⟨m', nils⟩
  · rintro ⟨m₁, hall⟩
    cases h with
    | holds split nils test value =>
      rw [split, List.map_append, List.map_cons] at hall
      cases nils.reached test hall
      exact absurd rfl value
    | fails split nils test =>
      rw [split, List.map_append, List.map_cons] at hall
      cases nils.reached test hall
    | undecided => rfl

end

/-! ## The form of clauses -/

/-- The first clause that is not a list of two is the error. -/
theorem checkClauses_append_cons {before after : List Sexp} {x : Sexp}
    (hbefore : ∀ y ∈ before, y.items.length = 2) (hx : x.items.length ≠ 2) :
    checkClauses (before ++ x :: after) = .error (.malformedClause x) := by
  induction before with
  | nil => exact if_neg (mt Sexp.isListOf_two_iff.1 hx)
  | cons y before ih =>
    rw [List.forall_mem_cons] at hbefore
    rw [List.cons_append, checkClauses, if_pos (Sexp.isListOf_two_iff.2 hbefore.1)]
    exact ih hbefore.2

/-- Whatever the clauses are: if one of them is not a list of two, the first such clause is the error,
    and nothing was evaluated. If all are lists of two, the conditional finishes exactly as they
    decide, and after all tests with an error of its own exactly if every test gave `NIL`. -/
theorem evaluateCond_first_match (args : List Sexp) (m : Machine) :
    ((∃ x ∈ args, x.items.length ≠ 2) →
      ∃ x ∈ args, x.items.length ≠ 2 ∧ (Error.malformedClause x).kind = .evaluation ∧
        ∀ ev, evaluateCond ev args m = some (.error (.malformedClause x), m)) ∧
    ((∀ x ∈ args, x.items.length = 2) →
      ∃ cs : List (Sexp × Sexp), args = cs.map (fun c => .list c.1 [c.2]) ∧
        (∀ r m', (∃ fuel, evaluateCond (MiniLisp.evaluate fuel) args m = some (r, m')) ↔
          ∃ c, Decides cs m c r m') ∧
        (∀ c r m', Decides cs m c r m' →
          (c = none ↔ ∃ m₁, AllNil (cs.map Prod.fst) m m₁)) ∧
        Error.noClauseHolds.kind = .evaluation) := by
  refine ⟨?_, ?_⟩
  · intro hdefect
    have hnot : ¬ ∀ x ∈ args, x.items.length = 2 := by simpa using hdefect
    obtain ⟨before, x, after, rfl, hbefore, hx⟩ := exists_first_without hnot
    refine ⟨x, by simp, hx, rfl, fun ev => ?_⟩
    simp only [evaluateCond, Eval.run_bind, checkClauses_append_cons hbefore hx, Eval.run_ofExcept]
  · intro hall
    obtain ⟨cs, rfl⟩ : args ∈ Set.range (List.map fun c : Sexp × Sexp => Sexp.list c.1 [c.2]) := by
      rw [Set.range_list_map]
      intro x hx
      obtain ⟨a, b, rfl⟩ := Sexp.eq_list_of_length_items (hall x hx)
      exact ⟨(a, b), rfl⟩
    refine ⟨cs, rfl, fun r m' => ?_, fun c r m' h => h.eq_none_iff, rfl⟩
    rw [← evaluates_condForm_iff]
    exact cond.evaluates_symbol_iff.symm

/-- The clauses `(T (PRINT 'A)) (T)` are refused though the first one holds. The clauses
    `((PRINT NIL) 'A) ('B (PRINT 'C)) ((CAR 'D) 'A)` print from the first test and from the expression
    of the second, and the third, which would fail, is not reached. -/
theorem evaluateCond_first_match_effects :
    let quoted (x : Atom) : Sexp := .list (.atom .quote) [.atom x]
    let print (x : Sexp) : Sexp := .list (.atom ⟨"PRINT", by decide⟩) [x]
    let a : Sexp := quoted ⟨"A", by decide⟩
    let c : Atom := ⟨"C", by decide⟩
    let t : Sexp := .atom .t
    let refused : List Sexp := [.list t [print a], .list t []]
    let args : List Sexp :=
      [.list (print .nil) [a], .list (quoted ⟨"B", by decide⟩) [print (quoted c)],
       .list (.list (.atom ⟨"CAR", by decide⟩) [quoted ⟨"D", by decide⟩]) [a]]
    (∃ x ∈ refused, ∀ ev, evaluateCond ev refused {} = some (.error (.malformedClause x), {})) ∧
    ∃ cs clause m', args = cs.map (fun c => .list c.1 [c.2]) ∧
      Decides cs {} clause (.ok (.atom c)) m' ∧ m'.output = "NIL\nC\n" := by
  intro quoted print a c t refused args
  have hrun : evaluateCond (MiniLisp.evaluate 3) args {} = some (.ok (.atom c), _) := rfl
  obtain ⟨x, hx, -, -, hrefused⟩ :=
    (evaluateCond_first_match refused {}).1 ⟨.list t [], by simp [refused], by decide⟩
  obtain ⟨cs, hcs, hiff, -⟩ := (evaluateCond_first_match args {}).2 (by simp [args, Sexp.items])
  obtain ⟨clause, hdecides⟩ := (hiff _ _).1 ⟨3, hrun⟩
  exact ⟨⟨x, hx, hrefused⟩, cs, clause, _, hcs, hdecides, by decide +kernel⟩

/-! ## Local bindings -/

/-- A local binding `(x e)` of a symbol. -/
structure LocalBinding where
  name : Atom
  expr : Sexp
  symbol : name.isSymbol = true

namespace LocalBinding

def form (b : LocalBinding) : Sexp := .list (.atom b.name) [b.expr]

theorem form_injective : Function.Injective form := by
  rintro ⟨name, expr, _⟩ ⟨name', expr', _⟩ h
  cases h
  rfl

/-- The names of bindings with values for them. -/
def table (bs : List LocalBinding) (values : List Sexp) : Table Sexp :=
  .ofList ((bs.map fun b => b.name.lit).zip values)

end LocalBinding

theorem evaluateBindings_form_cons (ev : Evaluator) (b : LocalBinding) (rest : List Sexp)
    (table : Table Sexp) :
    evaluateBindings ev (b.form :: rest) table =
      ev b.expr >>= fun value => evaluateBindings ev rest (table.insert b.name.lit value) := by
  have hname : (Sexp.atom b.name).symbol? = some b.name.lit := by
    rw [Sexp.symbol?, if_pos b.symbol]
  simp only [LocalBinding.form, evaluateBindings_cons, hname]

/-- Bindings are evaluated from left to right before what follows them is looked at. -/
theorem evaluateBindings_append (ev : Evaluator) (bs : List LocalBinding) (rest : List Sexp)
    (table : Table Sexp) :
    evaluateBindings ev (bs.map LocalBinding.form ++ rest) table =
      Call.evaluateAll ev (bs.map LocalBinding.expr) >>= fun values =>
        evaluateBindings ev rest
          (table.insertAll ((bs.map fun b => b.name.lit).zip values)) := by
  induction bs generalizing table with
  | nil => rfl
  | cons b bs ih =>
    rw [List.map_cons, List.cons_append, evaluateBindings_form_cons]
    simp only [ih, List.map_cons, Call.evaluateAll, Eval.bind_assoc]
    rfl

/-- What is not a binding is refused wherever it stands. -/
theorem evaluateBindings_of_not_binding {x : Sexp} (hx : x ∉ Set.range LocalBinding.form) :
    ∃ e : Error, e.kind = .evaluation ∧
      ∀ ev after table, evaluateBindings ev (x :: after) table = Eval.raise e := by
  by_cases hlist : x.isListOf 2 = true
  · obtain ⟨name, expr, rfl⟩ := Sexp.eq_list_of_isListOf hlist
    have hname : name.symbol? = none := by
      cases hsymbol : name.symbol? with
      | none => rfl
      | some s =>
        obtain ⟨a, rfl, ha, -⟩ := Sexp.symbol?_eq_some hsymbol
        exact absurd ⟨⟨a, expr, ha⟩, rfl⟩ hx
    refine ⟨.invalidBindingName name, rfl, fun ev after table => ?_⟩
    simp only [evaluateBindings_cons, hname]
  · exact ⟨.malformedBinding x, rfl, evaluateBindings_of_not_isListOf hlist⟩

theorem exists_bindings {xs : List Sexp} (h : ∀ x ∈ xs, x ∈ Set.range LocalBinding.form) :
    ∃ bs : List LocalBinding, bs.map LocalBinding.form = xs := by
  have hrange : xs ∈ Set.range (List.map LocalBinding.form) := by
    rw [Set.range_list_map]
    exact h
  exact hrange

section

variable {specs : Sexp} {bs : List LocalBinding} {m m' : Machine} {r : Except Error Sexp}

/-- With something malformed among the bindings, the expressions before it are all that is
    evaluated. -/
theorem evaluateLet_run_of_defect {x : Sexp} {after : List Sexp} {e : Error}
    (hspecs : specs.items = bs.map LocalBinding.form ++ x :: after)
    (hx : ∀ ev after table, evaluateBindings ev (x :: after) table = Eval.raise e)
    (ev : Evaluator) (body : Sexp) (m : Machine) :
    evaluateLet ev [specs, body] m =
      (Call.evaluateAll ev (bs.map LocalBinding.expr) m).map fun p =>
        (p.1.bind fun _ => .error e, p.2) := by
  rw [evaluateLet, hspecs, evaluateBindings_append, Eval.bind_assoc, Eval.run_bind]
  simp only [hx]
  cases Call.evaluateAll ev (bs.map LocalBinding.expr) m with
  | none => rfl
  | some p =>
    obtain ⟨r, m₁⟩ := p
    cases r <;> rfl

theorem evaluateLet_iff_of_defect {x : Sexp} {after : List Sexp} {e : Error}
    (hspecs : specs.items = bs.map LocalBinding.form ++ x :: after)
    (hx : ∀ ev after table, evaluateBindings ev (x :: after) table = Eval.raise e) (body : Sexp) :
    (∃ fuel, evaluateLet (MiniLisp.evaluate fuel) [specs, body] m = some (r, m')) ↔
      ∃ turns, InTurn (bs.map LocalBinding.expr) m turns m' ∧ m'.env.vars = m.env.vars ∧
        r = (Turn.results turns).bind fun _ => .error e := by
  have hrun := fun fuel => evaluateLet_run_of_defect hspecs hx (MiniLisp.evaluate fuel) body m
  constructor
  · rintro ⟨fuel, hlet⟩
    rw [hrun] at hlet
    obtain ⟨⟨results, m₁⟩, hall, hend⟩ := Option.map_eq_some_iff.1 hlet
    cases hend
    obtain ⟨turns, hturns, rfl⟩ := inTurn_of_evaluateAll hall
    exact ⟨turns, hturns, hturns.vars_eq.2, rfl⟩
  · rintro ⟨turns, hturns, -, rfl⟩
    obtain ⟨fuel, hall⟩ := hturns.evaluateAll
    refine ⟨fuel, ?_⟩
    rw [hrun, hall fuel (Nat.le_refl fuel)]
    rfl

/-- Once the expressions have values, the body is evaluated with the names bound to them. -/
theorem evaluateLet_run_of_values (hspecs : specs.items = bs.map LocalBinding.form)
    {ev : Evaluator} {values : List Sexp} {m₁ : Machine}
    (hvalues : Call.evaluateAll ev (bs.map LocalBinding.expr) m = some (.ok values, m₁))
    (body : Sexp) :
    evaluateLet ev [specs, body] m =
      Eval.ensuring (ev body)
        (endScope (LocalBinding.table bs values)
          (m₁.env.vars.restrict (LocalBinding.table bs values).keys))
        { m₁ with env := m₁.env.substitute (LocalBinding.table bs values) } := by
  have hbindings := evaluateBindings_append ev bs [] ∅
  rw [List.append_nil] at hbindings
  rw [evaluateLet, hspecs, hbindings, Eval.bind_assoc, Eval.run_bind, hvalues]
  rfl

theorem evaluateLet_of_values (hspecs : specs.items = bs.map LocalBinding.form)
    {turns : List Turn} {values : List Sexp} {m₁ m₂ : Machine}
    (hturns : InTurn (bs.map LocalBinding.expr) m turns m₁)
    (hvalues : Turn.results turns = .ok values) {body : Sexp}
    (hbody : Evaluates body
      { m₁ with env := m₁.env.substitute (LocalBinding.table bs values) } r m₂) :
    ∃ m', (∃ fuel, evaluateLet (MiniLisp.evaluate fuel) [specs, body] m = some (r, m')) ∧
      m'.env.vars = m.env.vars ∧ m'.output = m₂.output := by
  obtain ⟨fuel₁, hall⟩ := hturns.evaluateAll
  obtain ⟨fuel₂, hbody⟩ := hbody
  have hexprs := hall _ (Nat.le_max_left fuel₁ fuel₂)
  rw [hvalues] at hexprs
  -- the body gives back the variables that it began with, so the scope can be closed
  have hinner : m₂.env.vars = m₁.env.vars.merge (LocalBinding.table bs values) :=
    MiniLisp.evaluate_keepsVars fuel₂ body hbody
  have hlet := evaluateLet_run_of_values hspecs hexprs body
  rw [Eval.ensuring_of_ok (evaluate_mono (Nat.le_max_right fuel₁ fuel₂) hbody)
    (endScope_run hinner)] at hlet
  exact ⟨_, ⟨_, hlet⟩, hturns.vars_eq.2, rfl⟩

end

/-- Whatever follows the name of the form: other than two parts are refused. Of two parts, where
    something among the elements of the first is not a binding, the expressions of the bindings
    before it are evaluated in turn, and if none of them fails this ends with an error, without the
    body and with the variables as they were. Else the body is evaluated after them. An atom has no
    elements. -/
theorem evaluateLet_refuses_malformed (args : List Sexp) (m : Machine) :
    (args.length ≠ 2 → Error.bindingParts.kind = .evaluation ∧
      ∀ ev, evaluateLet ev args m = some (.error .bindingParts, m)) ∧
    ∀ specs body, args = [specs, body] →
      ((∃ x ∈ specs.items, x ∉ Set.range LocalBinding.form) →
        ∃ (bs : List LocalBinding) (x : Sexp) (after : List Sexp) (e : Error),
          specs.items = bs.map LocalBinding.form ++ x :: after ∧
          x ∉ Set.range LocalBinding.form ∧ e.kind = .evaluation ∧
          ∀ r m', (∃ fuel, evaluateLet (MiniLisp.evaluate fuel) args m = some (r, m')) ↔
            ∃ turns, InTurn (bs.map LocalBinding.expr) m turns m' ∧ m'.env.vars = m.env.vars ∧
              r = (Turn.results turns).bind fun _ => .error e) ∧
      ((∀ x ∈ specs.items, x ∈ Set.range LocalBinding.form) →
        ∃ bs : List LocalBinding, specs.items = bs.map LocalBinding.form ∧
          ∀ turns values m₁ r m₂, InTurn (bs.map LocalBinding.expr) m turns m₁ →
            Turn.results turns = .ok values →
            Evaluates body
              { m₁ with env := m₁.env.substitute (LocalBinding.table bs values) } r m₂ →
            ∃ m', (∃ fuel, evaluateLet (MiniLisp.evaluate fuel) args m = some (r, m')) ∧
              m'.env.vars = m.env.vars ∧ m'.output = m₂.output) := by
  refine ⟨?_, ?_⟩
  · intro hcount
    refine ⟨rfl, fun ev => ?_⟩
    rw [evaluateLet.eq_def]
    split
    · exact absurd rfl hcount
    · rfl
  · rintro specs body rfl
    refine ⟨?_, ?_⟩
    · rintro ⟨y, hy, hdefect⟩
      obtain ⟨before, x, after, hspecs, hbefore, hx⟩ :=
        exists_first_without fun hall => hdefect (hall y hy)
      obtain ⟨bs, rfl⟩ := exists_bindings hbefore
      obtain ⟨e, hkind, hraise⟩ := evaluateBindings_of_not_binding hx
      exact ⟨bs, x, after, e, hspecs, hx, hkind,
        fun r m' => evaluateLet_iff_of_defect hspecs hraise body⟩
    · intro hall
      obtain ⟨bs, hbs⟩ := exists_bindings hall
      exact ⟨bs, hbs.symm, fun turns values m₁ r m₂ hturns hvalues hbody =>
        evaluateLet_of_values hbs.symm hturns hvalues hbody⟩

/-- In `(LET ((X (PRINT 'A)) (5 T) (Y Z)) (CAR X))` the second binding is malformed: the first one
    prints, and the third, which would fail, is not reached. In `(LET ((X (PRINT 'A))) (LIST X))` the
    body is evaluated, and then `X` has its outer value again. -/
theorem evaluateLet_refuses_malformed_second :
    let x : Sexp := .atom ⟨"X", by decide⟩
    let a : Sexp := .atom ⟨"A", by decide⟩
    let printed : Sexp := .list (.atom ⟨"PRINT", by decide⟩) [.list (.atom .quote) [a]]
    let five : Sexp := .atom ⟨"5", by decide⟩
    let third : Sexp := .list (.atom ⟨"Y", by decide⟩) [.atom ⟨"Z", by decide⟩]
    let malformed : List Sexp := [.ofList [.list x [printed], .list five [.atom .t], third],
      .list (.atom ⟨"CAR", by decide⟩) [x]]
    let args : List Sexp := [.ofList [.list x [printed]], .list (.atom ⟨"LIST", by decide⟩) [x]]
    let m : Machine := { env := { vars := Table.ofList [("X", .atom .t)] } }
    (∃ fuel m', evaluateLet (MiniLisp.evaluate fuel) malformed m =
      some (.error (.invalidBindingName five), m') ∧
      m'.output = "A\n" ∧ m'.env.vars = m.env.vars) ∧
    ∃ fuel m', evaluateLet (MiniLisp.evaluate fuel) args m = some (.ok (.list a []), m') ∧
      m'.output = "A\n" ∧ m'.env.vars = m.env.vars := by
  intro x a printed five third malformed args m
  let first : LocalBinding := ⟨⟨"X", by decide⟩, printed, by decide⟩
  have hfive : Sexp.list five [.atom .t] ∉ Set.range LocalBinding.form := by
    rintro ⟨b, hb⟩
    obtain ⟨hname, -⟩ := Sexp.list.inj hb
    have hsymbol := b.symbol
    rw [Sexp.atom.inj hname] at hsymbol
    cases hsymbol
  have hrun : evaluateLet (MiniLisp.evaluate 3) malformed m =
      some (.error (.invalidBindingName five), _) := rfl
  obtain ⟨_, _, _, _, -, -, -, hiff⟩ := ((evaluateLet_refuses_malformed malformed m).2 _ _ rfl).1
    ⟨.list five [.atom .t], by simp, hfive⟩
  obtain ⟨-, -, hvars, -⟩ := (hiff _ _).1 ⟨3, hrun⟩
  obtain ⟨bs, hbs, hbody⟩ := ((evaluateLet_refuses_malformed args m).2 _ _ rfl).2
    (by simpa using ⟨first, rfl⟩)
  have hfirst : bs = [first] :=
    List.map_injective_iff.2 LocalBinding.form_injective hbs.symm
  subst hfirst
  obtain ⟨m', ⟨fuel, hlet⟩, hvars', houtput⟩ :=
    hbody _ _ _ _ _ (.cons ⟨3, rfl⟩ (.nil _)) rfl ⟨2, rfl⟩
  refine ⟨⟨3, _, hrun, by decide +kernel, hvars⟩, fuel, m', hlet, ?_, hvars'⟩
  rw [houtput]
  decide +kernel

/-- `(LET 5 T)` gives `T`, though `5` is neither `NIL` nor a list. -/
theorem evaluateLet_atom_for_bindings :
    (Sexp.atom ⟨"5", by decide⟩).isListOrNil = false ∧
      evaluateLet (MiniLisp.evaluate 1) [.atom ⟨"5", by decide⟩, .atom .t] {} =
        some (.ok (.atom .t), {}) :=
  ⟨by decide, rfl⟩

end MiniLisp.SpecialForm
