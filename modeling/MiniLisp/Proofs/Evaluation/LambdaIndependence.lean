import MiniLisp.Proofs.Evaluation.Simulation

/-! # Anonymous functions of the past do not matter

Anonymous functions are kept in a table under their formals, so one takes the place of another with
equal formals, and the formals that were registered last are pending. Neither the table nor what is
pending can be seen by a program: every application registers its function anew before it looks it
up. The order in which variables were bound cannot be seen either. -/

namespace MiniLisp

/-- Machines that a program cannot tell apart: they have the same functions and the same values of
    variables, and the same text was printed on both since the outputs were `p` and `q`. -/
structure Machine.Alike (p q : String) (m n : Machine) : Prop where
  functions : n.env.functions = m.env.functions
  vars : ∀ name, n.env.vars.get? name = m.env.vars.get? name
  output : ∃ printed, m.output = p ++ printed ∧ n.output = q ++ printed

namespace Machine.Alike

variable {p q : String} {m n : Machine}

theorem symm (h : Alike p q m n) : Alike q p n m where
  functions := h.functions.symm
  vars := fun name => (h.vars name).symm
  output := by
    obtain ⟨printed, hm, hn⟩ := h.output
    exact ⟨printed, hn, hm⟩

theorem congruence (p q : String) : Machine.Congruence (Alike p q) where
  functions h := h.functions
  vars h := h.vars
  substitute h table := by
    refine ⟨h.functions, fun name => ?_, h.output⟩
    show (Table.merge _ table).get? name = (Table.merge _ table).get? name
    rw [Table.get?_merge, Table.get?_merge, h.vars name]
  restore h h' := ⟨h'.functions, h.vars, h'.output⟩
  print h text := by
    refine ⟨h.functions, h.vars, ?_⟩
    obtain ⟨printed, hm, hn⟩ := h.output
    refine ⟨printed ++ text, ?_, ?_⟩
    · rw [hm, String.append_assoc]
    · rw [hn, String.append_assoc]
  record h _ := ⟨h.functions, h.vars, h.output⟩
  addFunction h name fn :=
    ⟨congrArg (fun functions => functions.insert name fn) h.functions, h.vars, h.output⟩
  addLambda h _ := ⟨h.functions, h.vars, h.output⟩
  settle h := ⟨h.functions, h.vars, h.output⟩

/-- What finishes on one of two machines that are alike finishes on the other, with the same end. -/
theorem evaluates (h : Alike p q m n) {x : Sexp} {r : Except Error Sexp} {m' : Machine}
    (hm : Evaluates x m r m') : ∃ n', Evaluates x n r n' ∧ Alike p q m' n' := by
  obtain ⟨fuel, hm⟩ := hm
  obtain ⟨n', hn, halike⟩ := evaluate_simulates (congruence p q) (Nat.le_refl fuel) x h hm
  exact ⟨n', ⟨fuel, hn⟩, halike⟩

end Machine.Alike

/-- Two machines with the same functions, and with the same values of variables in any order, give
    the same value or the same error, print the same text and end with the same functions and values
    of variables, or both do not finish. What anonymous functions they hold, and which formals are
    pending, makes no difference. -/
theorem evaluates_ignores_lambdas (x : Sexp) (m n : Machine)
    (hfunctions : n.env.functions = m.env.functions)
    (hvars : ∀ name, n.env.vars.get? name = m.env.vars.get? name) :
    ((∃ r m', Evaluates x m r m') ↔ ∃ r n', Evaluates x n r n') ∧
      ∀ r m' r' n', Evaluates x m r m' → Evaluates x n r' n' →
        r' = r ∧ n'.env.functions = m'.env.functions ∧
          (∀ name, n'.env.vars.get? name = m'.env.vars.get? name) ∧
          ∃ printed, m'.output = m.output ++ printed ∧ n'.output = n.output ++ printed := by
  have halike : Machine.Alike m.output n.output m n :=
    ⟨hfunctions, hvars, "", String.append_empty.symm, String.append_empty.symm⟩
  refine ⟨⟨?_, ?_⟩, ?_⟩
  · rintro ⟨r, m', hm⟩
    obtain ⟨n', hn, -⟩ := halike.evaluates hm
    exact ⟨r, n', hn⟩
  · rintro ⟨r, n', hn⟩
    obtain ⟨m', hm, -⟩ := halike.symm.evaluates hn
    exact ⟨r, m', hm⟩
  · intro r m' r' n' hm hn
    obtain ⟨n₁, hn₁, hend⟩ := halike.evaluates hm
    -- the run on `n` that follows the one on `m` is the only one there is
    obtain ⟨rfl, rfl⟩ := hn.unique hn₁
    exact ⟨rfl, hend.functions, hend.vars, hend.output⟩

/-- `((LAMBDA (X) (PRINT A)) B)` does the same on a machine that holds another function for the
    formals `(X)`, which are pending there, and that has its variables in another order. -/
theorem evaluates_ignores_lambdas_same_formals :
    let a : Sexp := .atom ⟨"A", by decide⟩
    let b : Sexp := .atom ⟨"B", by decide⟩
    let formals : Sexp := .list (.atom ⟨"X", by decide⟩) []
    let form : Sexp := .list (.list (.atom .lambda)
      [formals, .list (.atom ⟨"PRINT", by decide⟩) [a]]) [b]
    let m : Machine := { env := { vars := Table.ofList [("A", .atom .t), ("B", .nil)] } }
    let n : Machine := { env :=
      { vars := Table.ofList [("B", .nil), ("A", .atom .t)]
        lambdas := Table.ofList [("(X)", ⟨.anonymous, ["X"], formals, .nil⟩)]
        pending := some formals } }
    ∃ r m' n', Evaluates form m r m' ∧ Evaluates form n r n' ∧
      n'.env.functions = m'.env.functions ∧
      (∀ name, n'.env.vars.get? name = m'.env.vars.get? name) ∧
      ∃ printed, m'.output = m.output ++ printed ∧ n'.output = n.output ++ printed := by
  intro a b formals form m n
  have hvars : ∀ name, n.env.vars.get? name = m.env.vars.get? name := by
    intro name
    show Table.find name [("B", Sexp.nil), ("A", Sexp.atom .t)] =
      Table.find name [("A", Sexp.atom .t), ("B", Sexp.nil)]
    by_cases hname : "A" = name
    · subst hname
      rfl
    · simp [Table.find, hname]
  have hm : Evaluates form m _ _ := ⟨4, rfl⟩
  have hn : Evaluates form n _ _ := ⟨4, rfl⟩
  obtain ⟨hr, hend⟩ := (evaluates_ignores_lambdas form m n rfl hvars).2 _ _ _ _ hm hn
  exact ⟨_, _, _, hm, hr ▸ hn, hend⟩

end MiniLisp
