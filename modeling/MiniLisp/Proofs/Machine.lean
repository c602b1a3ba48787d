import MiniLisp.Machine
import MiniLisp.Proofs.Table

/-! # Laws of the machine

How the computations of `Eval` end, read backwards from a finished run, and what taking several
variables away does to the machine: all of them go, or none. -/

namespace MiniLisp.Eval

variable {α β γ : Type}

/-! ## Sequences -/

protected theorem bind_assoc (x : Eval α) (f : α → Eval β) (g : β → Eval γ) :
    x >>= f >>= g = x >>= fun a => f a >>= g := by
  funext m
  simp only [run_bind]
  cases x m with
  | none => rfl
  | some p =>
    obtain ⟨r, m₁⟩ := p
    cases r <;> rfl

/-! ## Finished runs -/

/-- A finished sequence failed in its first part, or went through it and finished in its second. -/
theorem bind_eq_some {x : Eval α} {f : α → Eval β} {m m' : Machine} {r : Except Error β}
    (h : (x >>= f) m = some (r, m')) :
    (∃ e, x m = some (.error e, m') ∧ r = .error e) ∨
      ∃ a m₁, x m = some (.ok a, m₁) ∧ f a m₁ = some (r, m') := by
  rw [run_bind] at h
  cases hx : x m with
  | none => rw [hx] at h; cases h
  | some p =>
    obtain ⟨r₁, m₁⟩ := p
    rw [hx] at h
    cases r₁ with
    | error e => cases h; exact Or.inl ⟨e, rfl, rfl⟩
    | ok a => exact Or.inr ⟨a, m₁, rfl, h⟩

/-- A finished computation with a cleanup went through both, and ended as the computation did unless
    the cleanup failed. -/
theorem ensuring_eq_some {x : Eval α} {cleanup : Eval Unit} {m m' : Machine} {r : Except Error α}
    (h : ensuring x cleanup m = some (r, m')) :
    ∃ r₁ m₁, x m = some (r₁, m₁) ∧
      ((∃ e, cleanup m₁ = some (.error e, m') ∧ r = .error e) ∨
        cleanup m₁ = some (.ok (), m') ∧ r = r₁) := by
  rw [ensuring] at h
  cases hx : x m with
  | none => rw [hx] at h; cases h
  | some p =>
    obtain ⟨r₁, m₁⟩ := p
    rw [hx] at h
    refine ⟨r₁, m₁, rfl, ?_⟩
    cases hc : cleanup m₁ with
    | none => simp only [hc] at h; cases h
    | some q =>
      obtain ⟨r₂, m₂⟩ := q
      simp only [hc] at h
      cases r₂ with
      | error e => cases h; exact Or.inl ⟨e, rfl, rfl⟩
      | ok u => cases h; exact Or.inr ⟨rfl, rfl⟩

/-- A cleanup that cannot fail leaves the end of the computation as it is. -/
theorem ensuring_of_ok {x : Eval α} {cleanup : Eval Unit} {m m₁ m' : Machine} {r : Except Error α}
    (hx : x m = some (r, m₁)) (hc : cleanup m₁ = some (.ok (), m')) :
    ensuring x cleanup m = some (r, m') := by
  simp only [ensuring, hx, hc]

/-! ## Taking variables away -/

theorem unbind_of_mem {name : String} {m : Machine} (h : name ∈ m.env.vars.keys) :
    unbind name m = some (.ok (), { m with
      env := { m.env with vars := m.env.vars.erase name }
      trace := .variableUnbound name :: m.trace }) := by
  have hcontains : m.env.vars.contains name = true := Table.contains_iff.2 h
  simp [unbind, Environment.unbind, hcontains]

theorem unbind_of_not_mem {name : String} {m : Machine} (h : name ∉ m.env.vars.keys) :
    unbind name m = some (.error (.undefinedVariable name), m) := by
  have hcontains : m.env.vars.contains name = false := by
    rw [Bool.eq_false_iff, ne_eq, Table.contains_iff]
    exact h
  simp [unbind, Environment.unbind, hcontains]

/-- Distinct variables that are there are all taken away. -/
theorem unbindEach_of_removable {names : List String} {m : Machine}
    (h : m.env.vars.Removable names) :
    unbindEach names m = some (.ok (), { m with
      env := { m.env with vars := m.env.vars.eraseAll names }
      trace := (names.map .variableUnbound).reverse ++ m.trace }) := by
  induction names generalizing m with
  | nil => rfl
  | cons name names ih =>
    obtain ⟨hname, hnames⟩ := Table.removable_cons.1 h
    rw [unbindEach, run_bind, unbind_of_mem hname]
    simp only
    rw [ih hnames]
    simp [Table.eraseAll]

/-- Otherwise the names before the first one that is not there, or no longer there, are taken away,
    and that name is the error. -/
theorem unbindEach_of_not_removable {names : List String} {m : Machine}
    (h : ¬ m.env.vars.Removable names) :
    ∃ before name after, names = before ++ name :: after ∧ m.env.vars.Removable before ∧
      (name ∉ m.env.vars.keys ∨ name ∈ before) ∧
      unbindEach names m = some (.error (.undefinedVariable name), { m with
        env := { m.env with vars := m.env.vars.eraseAll before }
        trace := (before.map .variableUnbound).reverse ++ m.trace }) := by
  induction names generalizing m with
  | nil => exact absurd ⟨List.nodup_nil, nofun⟩ h
  | cons name names ih =>
    by_cases hname : name ∈ m.env.vars.keys
    · have hnames : ¬ (m.env.vars.erase name).Removable names :=
        fun hnames => h (Table.removable_cons.2 ⟨hname, hnames⟩)
      obtain ⟨before, first, after, rfl, hbefore, hfirst, hrun⟩ := ih
        (m := { m with
          env := { m.env with vars := m.env.vars.erase name }
          trace := .variableUnbound name :: m.trace }) hnames
      refine ⟨name :: before, first, after, rfl, Table.removable_cons.2 ⟨hname, hbefore⟩, ?_, ?_⟩
      · -- a name that is missing now was missing before, or is the one just taken away
        by_cases heq : first = name
        · exact Or.inr (heq ▸ List.mem_cons_self)
        · exact hfirst.imp (fun hmissing hmem => hmissing (Table.mem_keys_erase.2 ⟨hmem, heq⟩))
            (List.mem_cons_of_mem name)
      · rw [unbindEach, run_bind, unbind_of_mem hname]
        simp only
        rw [hrun]
        simp [Table.eraseAll]
    · refine ⟨[], name, names, rfl, ⟨List.nodup_nil, nofun⟩, Or.inl hname, ?_⟩
      rw [unbindEach, run_bind, unbind_of_not_mem hname]
      rfl

theorem unbindAll_of_removable {names : List String} {m : Machine}
    (h : m.env.vars.Removable names) :
    unbindAll names m = some (.ok (), { m with
      env := { m.env with vars := m.env.vars.eraseAll names }
      trace := (names.map .variableUnbound).reverse ++ m.trace }) := by
  rw [unbindAll, orRestore, unbindEach_of_removable h]

/-- Taking variables away always ends, and succeeds exactly if the names are distinct and all of them
    are there. Then the table is the old one without these names, the other entries in their order.
    Otherwise the error is about the first name that is not there or repeats an earlier one, and the
    table is the old one. Nothing else changes but the trace. -/
theorem unbindAll_all_or_nothing (names : List String) (m : Machine) :
    ∃ r m', unbindAll names m = some (r, m') ∧
      (r = .ok () ↔ names.Nodup ∧ ∀ name ∈ names, name ∈ m.env.vars.keys) ∧
      (r = .ok () → m'.env.vars.entries = m.env.vars.entries.filter fun e => e.1 ∉ names) ∧
      (r ≠ .ok () → m'.env.vars = m.env.vars ∧
        ∃ before name after, names = before ++ name :: after ∧
          (before.Nodup ∧ ∀ other ∈ before, other ∈ m.env.vars.keys) ∧
          (name ∉ m.env.vars.keys ∨ name ∈ before) ∧ r = .error (.undefinedVariable name)) ∧
      m' = { m with env := { m.env with vars := m'.env.vars }, trace := m'.trace } := by
  by_cases h : m.env.vars.Removable names
  · refine ⟨_, _, unbindAll_of_removable h, ⟨fun _ => h, fun _ => rfl⟩, fun _ => ?_, ?_, rfl⟩
    · exact m.env.vars.entries_eraseAll names
    · exact fun hfail => absurd rfl hfail
  · obtain ⟨before, name, after, hnames, hbefore, hname, hrun⟩ := unbindEach_of_not_removable h
    have hall : unbindAll names m = some (.error (.undefinedVariable name), { m with
        trace := (before.map .variableUnbound).reverse ++ m.trace }) := by
      rw [unbindAll, orRestore, hrun]
    refine ⟨_, _, hall, ⟨nofun, fun hnames => absurd hnames h⟩, nofun, fun _ => ?_, rfl⟩
    exact ⟨rfl, before, name, after, hnames, hbefore, hname, rfl⟩

/-- From the variables `A` and `B`, the names `B A A` are refused for the second `A`, and the name `B`
    leaves `A`. -/
theorem unbindAll_all_or_nothing_repeated :
    let m : Machine := { env := { vars := Table.ofList [("A", .atom .t), ("B", .nil)] } }
    (∃ r m', unbindAll ["B", "A", "A"] m = some (r, m') ∧ r = .error (.undefinedVariable "A") ∧
      m'.env.vars = m.env.vars) ∧
    ∃ r m', unbindAll ["B"] m = some (r, m') ∧ r = .ok () ∧
      m'.env.vars.entries = [("A", .atom .t)] := by
  intro m
  obtain ⟨r, m', hrun, hiff, -, hfail, -⟩ := unbindAll_all_or_nothing ["B", "A", "A"] m
  obtain ⟨r', n', hrun', hiff', hdone, -, -⟩ := unbindAll_all_or_nothing ["B"] m
  have hr : r ≠ .ok () := fun hok => absurd (hiff.1 hok).1 (by decide)
  have hr' : r' = .ok () := hiff'.2 (by decide)
  refine ⟨⟨r, m', hrun, ?_, (hfail hr).1⟩, r', n', hrun', hr', hdone hr'⟩
  have hknown : unbindAll ["B", "A", "A"] m = some (.error (.undefinedVariable "A"), _) := rfl
  rw [hrun] at hknown
  cases hknown
  rfl

end MiniLisp.Eval
