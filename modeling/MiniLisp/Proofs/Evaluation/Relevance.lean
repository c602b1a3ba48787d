import MiniLisp.Proofs.Evaluation.Literals
import MiniLisp.Proofs.Evaluation.Simulation

/-! # Variables that are not mentioned do not matter

Scope is dynamic, and code can be put together from data, so any symbol that a run comes across may
be looked up as a variable. But a symbol that is in none of the data cannot be made: the only symbol
that evaluation makes and that stands for a variable is `LAMBDA`. So a variable with another name,
which occurs neither in the expression nor in the values and the bodies that it can reach, may be
there or not. -/

namespace MiniLisp

/-! ## Names in expressions -/

/-- The name occurs in the expression as a symbol. -/
def Sexp.Mentions (name : String) (x : Sexp) : Prop :=
  ∃ a ∈ x.atoms, a.isSymbol = true ∧ a.lit = name

instance (name : String) (x : Sexp) : Decidable (x.Mentions name) :=
  inferInstanceAs (Decidable (∃ a ∈ x.atoms, a.isSymbol = true ∧ a.lit = name))

/-- The literals of atoms that do not look the name up. Truth values and integers stand for
    themselves, whatever the name is. -/
def literalsWithout (name : String) : Set String :=
  {s | s = name → isIntegerLiteral s = true ∨ s = "NIL" ∨ s = "T"}

theorem Sexp.over_literalsWithout {name : String} {x : Sexp} (h : ¬ x.Mentions name) :
    x.Over (literalsWithout name) := by
  intro a ha heq
  left
  by_contra hint
  have hsymbol : a.isSymbol = true := by
    rw [Atom.isSymbol, Atom.isInt]
    simpa using hint
  exact h ⟨a, ha, hsymbol, heq⟩

theorem ne_of_mem_literalsWithout {name : String} {a : Atom} (h : a.lit ∈ literalsWithout name)
    (hvariable : a.isConstant = false) : a.lit ≠ name := by
  intro heq
  simp only [Atom.isConstant, Atom.isInt, Atom.isNil, Atom.isTrue, Bool.or_eq_false_iff,
    decide_eq_false_iff_not] at hvariable
  obtain ⟨⟨hint, hnil⟩, ht⟩ := hvariable
  rcases h heq with h | h | h
  · rw [hint] at h
    cases h
  · exact hnil h
  · exact ht h

theorem closedLiterals_literalsWithout {name : String} (hname : name ≠ "LAMBDA") :
    Sexp.ClosedLiterals (literalsWithout name) where
  nil_mem _ := Or.inr (Or.inl rfl)
  t_mem _ := Or.inr (Or.inr rfl)
  lambda_mem heq := absurd heq.symm hname
  integer_mem n _ := Or.inl (isIntegerLiteral_canonical n)

/-! ## Machines that differ in one variable -/

/-- Machines that are the same but for one variable, whose name is in none of the values of the
    others and in no body of a function. -/
structure Machine.AgreeOff (name : String) (m n : Machine) : Prop where
  functions : n.env.functions = m.env.functions
  lambdas : n.env.lambdas = m.env.lambdas
  pending : n.env.pending = m.env.pending
  output : n.output = m.output
  vars : ∀ {other}, other ≠ name → n.env.vars.get? other = m.env.vars.get? other
  value : ∀ {other} {v : Sexp}, other ≠ name → m.env.vars.get? other = some v →
    v.Over (literalsWithout name)
  body : ∀ {f fn}, m.env.functions.get? f = some fn → fn.body.Over (literalsWithout name)

namespace Machine.AgreeOff

variable {name : String} {m n m' n' : Machine}

theorem symm (h : AgreeOff name m n) : AgreeOff name n m where
  functions := h.functions.symm
  lambdas := h.lambdas.symm
  pending := h.pending.symm
  output := h.output.symm
  vars hother := (h.vars hother).symm
  value hother hv := h.value hother ((h.vars hother).symm.trans hv)
  body hfn := h.body (h.functions ▸ hfn)

/-- Bounds on runs that do not look the name up. -/
def bounds (name : String) : Bounds := ⟨literalsWithout name, (· ≠ name), fun _ => True⟩

theorem substitute (h : AgreeOff name m n) {table : Table Sexp}
    (htable : (bounds name).HoldsOf table) :
    AgreeOff name { m with env := m.env.substitute table }
      { n with env := n.env.substitute table } := by
  refine ⟨h.functions, h.lambdas, h.pending, h.output, ?_, ?_, h.body⟩
  · intro other hother
    rw [Environment.substitute, Environment.substitute, Table.get?_merge, Table.get?_merge,
      h.vars hother]
  · intro other v hother hv
    rw [Environment.substitute, Table.get?_merge] at hv
    rcases Option.or_eq_some_iff.1 hv with hnew | ⟨-, hold⟩
    · exact htable other v hnew
    · exact h.value hother hold

theorem addFunction (h : AgreeOff name m n) (f : String) {fn : Function}
    (hbody : fn.body.Over (literalsWithout name)) :
    AgreeOff name { m with env := m.env.addFunction f fn }
      { n with env := n.env.addFunction f fn } := by
  refine ⟨?_, h.lambdas, h.pending, h.output, h.vars, h.value, ?_⟩
  · exact congrArg (fun functions => functions.insert f fn) h.functions
  · intro g gn hgn
    rw [Environment.addFunction, Table.get?_insert] at hgn
    split at hgn
    · cases hgn
      exact hbody
    · exact h.body hgn

/-- The variable may be bound anew on both machines: it is not looked up, and what it is bound to
    outside comes back at the end of the scope. Only the reports of that may differ, if the name is
    that of a truth value. -/
theorem coupling (hname : name ≠ "LAMBDA") : Coupling (AgreeOff name) (bounds name) where
  closed := ⟨closedLiterals_literalsWithout hname, ne_of_mem_literalsWithout, fun _ => trivial⟩
  functions h := h.functions
  lookup h hother := h.vars hother
  value h hother hv := h.value hother hv
  callable h hfn := ⟨h.body hfn, trivial, trivial⟩
  substitute h htable := h.substitute htable
  restore h h' := ⟨h'.functions, h'.lambdas, h'.pending, h'.output, h.vars, h.value, h'.body⟩
  print h _ := ⟨h.functions, h.lambdas, h.pending, congrArg (· ++ _) h.output, h.vars, h.value,
    h.body⟩
  record h _ := ⟨h.functions, h.lambdas, h.pending, h.output, h.vars, h.value, h.body⟩
  unbound _ h' _ := ⟨h'.functions, h'.lambdas, h'.pending, h'.output, h'.vars, h'.value, h'.body⟩
  addFunction h hmake _ _ hbody := by
    obtain ⟨-, -, rfl, -⟩ := Function.make_eq_ok (Environment.namedFunction_eq_ok hmake).2
    exact h.addFunction _ hbody
  addLambda {m n fn} _ _ h _ _ _ :=
    ⟨h.functions, congrArg (fun lambdas => lambdas.insert fn.formals.render fn) h.lambdas, rfl,
      h.output, h.vars, h.value, h.body⟩
  settle h := ⟨h.functions, h.lambdas, rfl, h.output, h.vars, h.value, h.body⟩

/-- What finishes on one of the machines finishes on the other, with the same end. -/
theorem evaluates (h : AgreeOff name m n) (hname : name ≠ "LAMBDA") {x : Sexp}
    (hx : ¬ x.Mentions name) {r : Except Error Sexp} (hm : Evaluates x m r m') :
    ∃ n', Evaluates x n r n' ∧ AgreeOff name m' n' := by
  obtain ⟨fuel, hm⟩ := hm
  have hfollows := (coupling hname).evaluate_follows (Nat.le_refl fuel)
    (Sexp.over_literalsWithout hx)
  obtain ⟨-, n', hn, hagree⟩ := hfollows h hm
  exact ⟨n', ⟨fuel, hn⟩, hagree⟩

end Machine.AgreeOff

/-! ## One variable more -/

/-- The second machine is the first one with one variable more, wherever it stands in the order of
    the variables. -/
structure Machine.AddsVariable (name : String) (v : Sexp) (m n : Machine) : Prop where
  functions : n.env.functions = m.env.functions
  lambdas : n.env.lambdas = m.env.lambdas
  pending : n.env.pending = m.env.pending
  output : n.output = m.output
  bound : n.env.vars.get? name = some v
  others : n.env.vars.erase name = m.env.vars

namespace Machine.AddsVariable

variable {name : String} {v : Sexp} {m n m' n' : Machine}

/-- A name that has no value yet can be given one. -/
theorem of_insert (h : m.env.vars.get? name = none) (v : Sexp) :
    AddsVariable name v m { m with env := { m.env with vars := m.env.vars.insert name v } } := by
  refine ⟨rfl, rfl, rfl, rfl, ?_, ?_⟩
  · rw [Table.get?_insert, if_pos rfl]
  · have hnew : name ∉ m.env.vars.keys := Table.get?_eq_none_iff.1 h
    have hold : m.env.vars.keys.filter (fun key => key ≠ name) = m.env.vars.keys := by
      refine List.filter_eq_self.2 fun key hkey => ?_
      have hne : key ≠ name := fun heq => hnew (heq ▸ hkey)
      simpa using hne
    apply Table.ext_get?
    · rw [Table.keys_erase, Table.keys_insert, if_neg hnew, List.filter_append, hold]
      simp
    · intro other
      rw [Table.get?_erase, Table.get?_insert]
      by_cases hother : name = other
      · rw [if_pos hother, ← hother, h]
      · rw [if_neg hother, if_neg hother]

theorem agreeOff (h : AddsVariable name v m n)
    (hbodies : ∀ f fn, m.env.functions.get? f = some fn → ¬ fn.body.Mentions name)
    (hvalues : ∀ other w, m.env.vars.get? other = some w → ¬ w.Mentions name) :
    AgreeOff name m n where
  functions := h.functions
  lambdas := h.lambdas
  pending := h.pending
  output := h.output
  vars := by
    intro other hother
    rw [← h.others, Table.get?_erase, if_neg (Ne.symm hother)]
  value _ hv := Sexp.over_literalsWithout (hvalues _ _ hv)
  body hfn := Sexp.over_literalsWithout (hbodies _ _ hfn)

/-- The variable is still there after runs that kept their variables. -/
theorem of_agreeOff (h : AddsVariable name v m n) (hend : AgreeOff name m' n')
    (hm : m'.env.vars = m.env.vars) (hn : n'.env.vars = n.env.vars) :
    AddsVariable name v m' n' where
  functions := hend.functions
  lambdas := hend.lambdas
  pending := hend.pending
  output := hend.output
  bound := by rw [hn, h.bound]
  others := by rw [hn, hm, h.others]

end Machine.AddsVariable

/-- Take a name other than `LAMBDA` that occurs neither in an expression, nor in the values of the
    variables, nor in the bodies of the functions. With or without a variable of that name, whatever
    its value is, the expression has the same value or error, prints the same text and leaves the
    same functions, anonymous functions and pending formals, or does not finish. The variable is
    still there afterwards, and the others are the same. -/
theorem evaluates_ignores_unmentioned (x : Sexp) (name : String) (v : Sexp) (m n : Machine)
    (hadds : Machine.AddsVariable name v m n) (hname : name ≠ "LAMBDA") (hx : ¬ x.Mentions name)
    (hbodies : ∀ f fn, m.env.functions.get? f = some fn → ¬ fn.body.Mentions name)
    (hvalues : ∀ other w, m.env.vars.get? other = some w → ¬ w.Mentions name) :
    ((∃ r m', Evaluates x m r m') ↔ ∃ r n', Evaluates x n r n') ∧
      ∀ r m' r' n', Evaluates x m r m' → Evaluates x n r' n' →
        r' = r ∧ Machine.AddsVariable name v m' n' := by
  have hagree := hadds.agreeOff hbodies hvalues
  refine ⟨⟨?_, ?_⟩, ?_⟩
  · rintro ⟨r, m', hm⟩
    obtain ⟨n', hn, -⟩ := hagree.evaluates hname hx hm
    exact ⟨r, n', hn⟩
  · rintro ⟨r, n', hn⟩
    obtain ⟨m', hm, -⟩ := hagree.symm.evaluates hname hx hn
    exact ⟨r, m', hm⟩
  · intro r m' r' n' hm hn
    obtain ⟨n₁, hn₁, hend⟩ := hagree.evaluates hname hx hm
    obtain ⟨rfl, rfl⟩ := hn.unique hn₁
    obtain ⟨fuel, hrun⟩ := hm
    obtain ⟨fuel', hrun'⟩ := hn
    exact ⟨rfl, hadds.of_agreeOff hend (evaluate_keepsVars fuel x hrun)
      (evaluate_keepsVars fuel' x hrun')⟩

/-- `(F (LAMBDA (Z) (CAR Z)))` gives `A` where `F` applies its actual to `(A)`, with or without a
    variable `X`. Its value is the symbol `X` itself, so looking it up would show. -/
theorem evaluates_ignores_unmentioned_applied :
    let symbol (s : String) (h : isAtomLiteral s = true) : Sexp := .atom ⟨s, h⟩
    let a := symbol "A" (by decide)
    let g := symbol "G" (by decide)
    let z := symbol "Z" (by decide)
    let quoted : Sexp := .list (.atom .quote) [.list a []]
    let f : Function := ⟨.named "F", ["G"], .list g [], .list g [quoted]⟩
    let form : Sexp := .list (symbol "F" (by decide))
      [.list (.atom .lambda) [.list z [], .list (symbol "CAR" (by decide)) [z]]]
    let m : Machine := { env :=
      { vars := Table.ofList [("Y", a)], functions := Table.ofList [("F", f)] } }
    let n : Machine := { m with env :=
      { m.env with vars := m.env.vars.insert "X" (symbol "X" (by decide)) } }
    ¬ form.Mentions "X" ∧ ¬ f.body.Mentions "X" ∧ ¬ a.Mentions "X" ∧
      ∃ m' n', Evaluates form m (.ok a) m' ∧ Evaluates form n (.ok a) n' ∧
        Machine.AddsVariable "X" (symbol "X" (by decide)) m' n' := by
  intro symbol a g z quoted f form m n
  have hform : ¬ form.Mentions "X" := by decide
  have hbody : ¬ f.body.Mentions "X" := by decide
  have hvalue : ¬ a.Mentions "X" := by decide
  have hbodies : ∀ name fn, m.env.functions.get? name = some fn → ¬ fn.body.Mentions "X" := by
    intro name fn hfn
    change (if "F" = name then some f else none) = some fn at hfn
    split at hfn
    · cases hfn
      exact hbody
    · cases hfn
  have hvalues : ∀ name w, m.env.vars.get? name = some w → ¬ w.Mentions "X" := by
    intro name w hw
    change (if "Y" = name then some a else none) = some w at hw
    split at hw
    · cases hw
      exact hvalue
    · cases hw
  have hm : Evaluates form m (.ok a) _ := ⟨5, rfl⟩
  have hn : Evaluates form n (.ok a) _ := ⟨5, rfl⟩
  obtain ⟨-, hends⟩ := evaluates_ignores_unmentioned form "X" (symbol "X" (by decide)) m n
    (.of_insert rfl _) (by decide) hform hbodies hvalues
  exact ⟨hform, hbody, hvalue, _, _, hm, hn, (hends _ _ _ _ hm hn).2⟩

end MiniLisp
