import MiniLisp.Proofs.Evaluation.Coupling

/-! # Runs that follow each other

A relation between machines that evaluation cannot tell apart at all couples runs without bounds:
every finished run on one machine is followed by a run on the other that ends in the same way. That
more fuel changes nothing, and that anonymous functions of the past do not matter, are both cases of
this. -/

namespace MiniLisp

/-! ## Relations that evaluation respects -/

/-- A relation between machines that evaluation cannot tell apart: they have the same functions and
    the same values of variables, and every change that evaluation makes to both keeps the
    relation. -/
structure Machine.Congruence (R : Machine → Machine → Prop) : Prop where
  functions : ∀ {m n}, R m n → n.env.functions = m.env.functions
  vars : ∀ {m n}, R m n → ∀ name, n.env.vars.get? name = m.env.vars.get? name
  substitute : ∀ {m n}, R m n → ∀ table,
    R { m with env := m.env.substitute table } { n with env := n.env.substitute table }
  restore : ∀ {m n m' n'}, R m n → R m' n' →
    R { m' with env := { m'.env with vars := m.env.vars } }
      { n' with env := { n'.env with vars := n.env.vars } }
  print : ∀ {m n}, R m n → ∀ text,
    R { m with output := m.output ++ text } { n with output := n.output ++ text }
  record : ∀ {m n}, R m n → ∀ event,
    R { m with trace := event :: m.trace } { n with trace := event :: n.trace }
  addFunction : ∀ {m n}, R m n → ∀ name fn,
    R { m with env := m.env.addFunction name fn } { n with env := n.env.addFunction name fn }
  addLambda : ∀ {m n}, R m n → ∀ fn,
    R { m with env := m.env.addLambda fn } { n with env := n.env.addLambda fn }
  settle : ∀ {m n}, R m n →
    R { m with env := { m.env with pending := none } } { n with env := { n.env with pending := none } }

/-- Whatever `x` does on one of two related machines when it finishes, `y` does on the other: it
    ends with the same value or error, and leaves related machines. -/
def Eval.Simulates {α : Type} (R : Machine → Machine → Prop) (x y : Eval α) : Prop :=
  ∀ ⦃m n⦄, R m n → ∀ ⦃r m'⦄, x m = some (r, m') → ∃ n', y n = some (r, n') ∧ R m' n'

variable {R : Machine → Machine → Prop}

namespace Machine.Congruence

variable (hR : Congruence R)
include hR

theorem recordAll {m n : Machine} (hmn : R m n) (events : List Event) :
    R { m with trace := events ++ m.trace } { n with trace := events ++ n.trace } := by
  induction events with
  | nil => exact hmn
  | cons event events ih => exact hR.record ih event

/-- Related machines have the same new names to take away at the end of a scope. -/
theorem fresh_eq {m n : Machine} (hmn : R m n) (names : List String) :
    names.filter (fun name => name ∉ n.env.vars.keys) =
      names.filter (fun name => name ∉ m.env.vars.keys) := by
  refine List.filter_congr fun name _ => ?_
  have hiff : name ∈ n.env.vars.keys ↔ name ∈ m.env.vars.keys := by
    rw [Table.mem_keys_iff, Table.mem_keys_iff, hR.vars hmn]
  simp [hiff]

/-- A relation that evaluation respects couples runs without bounds. -/
theorem coupling : Coupling R Bounds.all where
  closed := Bounds.all_closed
  functions := hR.functions
  lookup h _ := hR.vars h _
  value _ _ _ := Sexp.over_univ _
  callable _ _ := Bounds.all_callable _
  substitute h _ := hR.substitute h _
  restore := hR.restore
  print h _ := hR.print h _
  record := hR.record
  unbound h h' names := by
    rw [hR.fresh_eq h]
    exact hR.recordAll h' _
  addFunction h _ _ _ _ := hR.addFunction h _ _
  addLambda h _ _ _ := hR.addLambda h _
  settle := hR.settle

end Machine.Congruence

theorem Eval.Follows.simulates {α : Type} {B : Bounds} {Q : α → Prop} {x y : Eval α}
    (h : Eval.Follows R B Q x y) : Eval.Simulates R x y :=
  fun _ _ hmn _ _ hrun => (h hmn hrun).2

/-- An evaluation on one machine is followed, with at least as much fuel, by an evaluation on a
    related one. -/
theorem evaluate_simulates (hR : Machine.Congruence R) {fuel fuel' : Nat} (hle : fuel ≤ fuel')
    (x : Sexp) : Eval.Simulates R (evaluate fuel x) (evaluate fuel' x) :=
  (hR.coupling.evaluate_follows hle (Sexp.over_univ x)).simulates

/-- So is a call of any function. -/
theorem call_simulates (hR : Machine.Congruence R) (fuel : Nat) (fn : Function) (actuals : Sexp) :
    Eval.Simulates R (Call.call (evaluate fuel) fn actuals)
      (Call.call (evaluate fuel) fn actuals) := by
  have C := hR.coupling
  have hev : Evaluator.Follows R Bounds.all (evaluate fuel) (evaluate fuel) :=
    ⟨fun hx => C.evaluate_follows (Nat.le_refl fuel) hx, evaluate_keepsVars fuel,
      evaluate_keepsVars fuel⟩
  exact (C.call_follows hev (Bounds.all_callable fn) (Sexp.over_univ actuals)
    (Or.inr trivial)).simulates

/-- On two machines that are related both ways, a computation that follows itself finishes on both or
    on neither, and what `seen` shows of the ends is the same if it is the same of related ends. -/
theorem Eval.Simulates.map_eq {α β : Type} {x : Eval α} (hsim : Eval.Simulates R x x)
    {m n : Machine} (hmn : R m n) (hnm : R n m) {seen : Except Error α × Machine → β}
    (hseen : ∀ {r m' n'}, x m = some (r, m') → x n = some (r, n') → R m' n' →
      seen (r, m') = seen (r, n')) : (x m).map seen = (x n).map seen := by
  cases hm : x m with
  | none =>
    cases hn : x n with
    | none => rfl
    | some p =>
      obtain ⟨m', hm', -⟩ := hsim hnm hn
      rw [hm] at hm'
      cases hm'
  | some p =>
    obtain ⟨r, m'⟩ := p
    obtain ⟨n', hn, hend⟩ := hsim hmn hm
    rw [hn, Option.map_some, Option.map_some, hseen hm hn hend]

/-! ## Fuel -/

theorem Machine.congruence_eq : Machine.Congruence (· = ·) where
  functions := by rintro m _ rfl; rfl
  vars := by rintro m _ rfl name; rfl
  substitute := by rintro m _ rfl table; rfl
  restore := by rintro m _ m' _ rfl rfl; rfl
  print := by rintro m _ rfl text; rfl
  record := by rintro m _ rfl event; rfl
  addFunction := by rintro m _ rfl name fn; rfl
  addLambda := by rintro m _ rfl fn; rfl
  settle := by rintro m _ rfl; rfl

/-- More fuel does not change a finished evaluation. -/
theorem evaluate_mono {fuel fuel' : Nat} (hle : fuel ≤ fuel') {x : Sexp} {m m' : Machine}
    {r : Except Error Sexp} (h : evaluate fuel x m = some (r, m')) :
    evaluate fuel' x m = some (r, m') := by
  obtain ⟨n', hn, rfl⟩ := evaluate_simulates Machine.congruence_eq hle x rfl h
  exact hn

/-- An evaluation finishes in one way only. -/
theorem Evaluates.unique {x : Sexp} {m m₁ m₂ : Machine} {r₁ r₂ : Except Error Sexp}
    (h₁ : Evaluates x m r₁ m₁) (h₂ : Evaluates x m r₂ m₂) : r₁ = r₂ ∧ m₁ = m₂ := by
  obtain ⟨fuel₁, h₁⟩ := h₁
  obtain ⟨fuel₂, h₂⟩ := h₂
  have hmax₁ := evaluate_mono (Nat.le_max_left fuel₁ fuel₂) h₁
  have hmax₂ := evaluate_mono (Nat.le_max_right fuel₁ fuel₂) h₂
  rw [hmax₁] at hmax₂
  cases hmax₂
  exact ⟨rfl, rfl⟩

end MiniLisp
