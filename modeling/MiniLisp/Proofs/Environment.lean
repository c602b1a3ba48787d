import MiniLisp.Proofs.Atom
import MiniLisp.Proofs.Evaluation.Coupling

/-! # Well-formed environments

The tables of an environment hold only what the operations on it put there: named functions under
their own names, anonymous functions under their formals, and all of them made of distinct symbols
and a list. Whatever is done with an environment, and however it ends, this stays true. -/

namespace MiniLisp

/-! ## Functions -/

namespace Function

/-- A function as it is made: formals and body are lists, and the names are those of the formals,
    which are distinct symbols. -/
structure WellFormed (fn : Function) : Prop where
  formals : fn.formals.isListOrNil = true
  body : fn.body.isListOrNil = true
  names : fn.formals.items.map Sexp.symbol? = fn.params.map some
  symbols : ∀ name ∈ fn.params, isSymbolLiteral name = true
  distinct : fn.params.Nodup

variable {origin : Origin} {formals body : Sexp} {fn : Function}

theorem make_eq_ok_lists (h : make origin formals body = .ok fn) :
    formals.isListOrNil = true ∧ body.isListOrNil = true ∧
      paramNames [] formals.items = .ok fn.params := by
  rw [make] at h
  split at h
  · cases h
  · next hformals =>
    split at h
    · cases h
    · next hbody =>
      cases hnames : paramNames [] formals.items with
      | error e => rw [hnames] at h; cases h
      | ok names =>
        rw [hnames] at h
        cases h
        exact ⟨by simpa using hformals, by simpa using hbody, rfl⟩

/-- What `make` gives is well formed. -/
theorem wellFormed_of_make (h : make origin formals body = .ok fn) : fn.WellFormed := by
  obtain ⟨hformals, hbody, hparams⟩ := make_eq_ok_lists h
  obtain ⟨-, rfl, rfl, hnames⟩ := make_eq_ok h
  refine ⟨hformals, hbody, hnames, ?_, (nodup_of_paramNames hparams).1⟩
  intro name hname
  have hmem : some name ∈ fn.formals.items.map Sexp.symbol? := hnames ▸ List.mem_map_of_mem hname
  obtain ⟨x, -, hsymbol⟩ := List.mem_map.1 hmem
  obtain ⟨a, rfl, ha, rfl⟩ := Sexp.symbol?_eq_some hsymbol
  rw [Atom.isSymbol, Bool.not_eq_true'] at ha
  exact a.isSymbolLiteral_or_isInt.resolve_right (by simp [ha])

end Function

/-! ## Environments -/

/-- An environment as its operations make it: a named function stands under its own name, which is
    not one of anonymous functions, an anonymous function stands under its formals, and the pending
    formals are those of an anonymous function. -/
structure Environment.WellFormed (env : Environment) : Prop where
  named : ∀ {name fn}, env.functions.get? name = some fn →
    fn.origin = .named name ∧ isLambdaName name = false ∧ fn.WellFormed
  anonymous : ∀ {key fn}, env.lambdas.get? key = some fn →
    fn.origin = .anonymous ∧ fn.formals.render = key ∧ fn.WellFormed
  pending : ∀ {formals}, env.pending = some formals → formals.render ∈ env.lambdas.keys

namespace Environment.WellFormed

variable {env : Environment} {fn : Function} {formals body : Sexp}

theorem fresh : ({} : Environment).WellFormed := ⟨nofun, nofun, nofun⟩

/-- Variables can be anything. -/
theorem of_vars (h : env.WellFormed) (vars : Table Sexp) : { env with vars := vars }.WellFormed :=
  ⟨h.named, h.anonymous, h.pending⟩

theorem settle (h : env.WellFormed) : { env with pending := none }.WellFormed :=
  ⟨h.named, h.anonymous, nofun⟩

theorem addFunction (h : env.WellFormed) {name : String}
    (hmake : namedFunction name formals body = .ok fn) : (env.addFunction name fn).WellFormed := by
  obtain ⟨hname, hmake⟩ := namedFunction_eq_ok hmake
  refine ⟨?_, h.anonymous, h.pending⟩
  intro other fn' hfn'
  rw [Environment.addFunction, Table.get?_insert] at hfn'
  split at hfn'
  · next heq =>
    cases hfn'
    subst heq
    exact ⟨(Function.make_eq_ok hmake).1, hname, Function.wellFormed_of_make hmake⟩
  · exact h.named hfn'

theorem addLambda (h : env.WellFormed) (hmake : Function.make .anonymous formals body = .ok fn) :
    (env.addLambda fn).WellFormed := by
  refine ⟨h.named, ?_, ?_⟩
  · intro key fn' hfn'
    rw [Environment.addLambda, Table.get?_insert] at hfn'
    split at hfn'
    · next heq =>
      cases hfn'
      exact ⟨(Function.make_eq_ok hmake).1, heq, Function.wellFormed_of_make hmake⟩
    · exact h.anonymous hfn'
  · intro pending hpending
    cases hpending
    -- the formals are pending just when the function was put under them
    refine Table.mem_keys_iff.2 ⟨fn, ?_⟩
    rw [Environment.addLambda, Table.get?_insert, if_pos rfl]

/-- Evaluation keeps an environment well formed, however it ends. -/
theorem coupling : Coupling (fun m n => n = m ∧ m.env.WellFormed) Bounds.all where
  closed := Bounds.all_closed
  functions := by rintro m _ ⟨rfl, _⟩; rfl
  lookup := by rintro m _ name ⟨rfl, _⟩ _; rfl
  value _ _ _ := Sexp.over_univ _
  callable _ _ := Bounds.all_callable _
  substitute := by rintro m _ table ⟨rfl, h⟩ _; exact ⟨rfl, h.of_vars _⟩
  restore := by rintro m _ m' _ ⟨rfl, _⟩ ⟨rfl, h'⟩; exact ⟨rfl, h'.of_vars _⟩
  print := by rintro m _ x ⟨rfl, h⟩ _; exact ⟨rfl, h⟩
  record := by rintro m _ ⟨rfl, h⟩ _; exact ⟨rfl, h⟩
  unbound := by rintro m _ m' _ ⟨rfl, _⟩ ⟨rfl, h'⟩ _; exact ⟨rfl, h'⟩
  addFunction := by
    rintro m _ name fn formals body ⟨rfl, h⟩ hmake _ _ _
    exact ⟨rfl, h.addFunction hmake⟩
  addLambda := by
    rintro m _ fn formals body ⟨rfl, h⟩ hmake _ _
    exact ⟨rfl, h.addLambda hmake⟩
  settle := by rintro m _ ⟨rfl, h⟩; exact ⟨rfl, h.settle⟩

end Environment.WellFormed

/-! ## Computations that keep environments well formed -/

/-- A computation that leaves a well-formed environment well formed, however it ends. -/
def Eval.KeepsWellFormed {α : Type} (x : Eval α) : Prop :=
  ∀ ⦃m r m'⦄, x m = some (r, m') → m.env.WellFormed → m'.env.WellFormed

namespace Eval.KeepsWellFormed

variable {α β : Type}

theorem of_follows {Q : α → Prop} {x : Eval α}
    (h : Eval.Follows (fun m n => n = m ∧ m.env.WellFormed) Bounds.all Q x x) :
    KeepsWellFormed x := by
  intro m r m' hrun hm
  obtain ⟨-, n', -, -, hm'⟩ := h ⟨rfl, hm⟩ hrun
  exact hm'

theorem ofExcept (r : Except Error α) : KeepsWellFormed (Eval.ofExcept r) := by
  intro m r' m' h hm
  cases h
  exact hm

theorem environment : KeepsWellFormed Eval.environment := by
  intro m r m' h hm
  cases h
  exact hm

theorem bind {x : Eval α} {f : α → Eval β} (hx : KeepsWellFormed x)
    (hf : ∀ a, KeepsWellFormed (f a)) : KeepsWellFormed (x >>= f) := by
  intro m r m' h hm
  obtain ⟨e, hfail, rfl⟩ | ⟨a, m₁, hfirst, hsecond⟩ := bind_eq_some h
  · exact hx hfail hm
  · exact hf a hsecond (hx hfirst hm)

theorem discard {x : Eval α} (hx : KeepsWellFormed x) : KeepsWellFormed (x *> pure ()) :=
  bind hx fun _ => ofExcept (.ok ())

theorem call (fuel : Nat) (fn : Function) (actuals : Sexp) :
    KeepsWellFormed (Call.call (evaluate fuel) fn actuals) := by
  have C := Environment.WellFormed.coupling
  have hev : Evaluator.Follows (fun m n => n = m ∧ m.env.WellFormed) Bounds.all (evaluate fuel)
      (evaluate fuel) :=
    ⟨fun hx => C.evaluate_follows (Nat.le_refl fuel) hx, evaluate_keepsVars fuel,
      evaluate_keepsVars fuel⟩
  exact of_follows (C.call_follows hev (Bounds.all_callable fn) (Sexp.over_univ actuals)
    (Or.inr trivial))

theorem evaluatePart (fuel : Nat) (x : Part) : KeepsWellFormed (evaluatePart fuel x) := by
  cases x with
  | sexp x =>
    exact of_follows (Environment.WellFormed.coupling.evaluate_follows (Nat.le_refl fuel)
      (Sexp.over_univ x))
  | foreign v => exact ofExcept (.error (.notEvaluable v))

theorem modifyVars (f : Environment → Table Sexp) :
    KeepsWellFormed (Eval.modify fun env => { env with vars := f env }) := by
  intro m r m' h hm
  cases h
  exact hm.of_vars (f m.env)

theorem unbind (name : String) : KeepsWellFormed (Eval.unbind name) := by
  intro m r m' h hm
  by_cases hmem : name ∈ m.env.vars.keys
  · rw [unbind_of_mem hmem] at h
    cases h
    exact hm.of_vars _
  · rw [unbind_of_not_mem hmem] at h
    cases h
    exact hm

theorem unbindEach (names : List String) : KeepsWellFormed (Eval.unbindEach names) := by
  induction names with
  | nil => exact ofExcept (.ok ())
  | cons name names ih => exact bind (unbind name) fun _ => ih

/-- Giving the variables back after a failure is one more change of variables. -/
theorem unbindAll (names : List String) : KeepsWellFormed (Eval.unbindAll names) := by
  intro m r m' h hm
  rw [Eval.unbindAll, orRestore] at h
  split at h
  · next e m₁ hrun =>
    cases h
    exact (unbindEach names hrun hm).of_vars _
  · exact unbindEach names h hm

theorem invoke (p : Primitive) (args : Option Sexp) : KeepsWellFormed (Eval.invoke p args) := by
  intro m r m' h hm
  rw [Eval.invoke] at h
  split at h
  · cases h
    exact hm
  · cases h
    exact hm

end Eval.KeepsWellFormed

/-! ## Operations -/

/-- What can be done with an environment from outside. -/
inductive Operation where
  | registerFunction (name : String) (formals body : Sexp)
  | registerLambda (formals body : Sexp)
  | callNamed (name : String) (actuals : Sexp)
  | callLambda (formals actuals : Sexp)
  | evaluate (x : Part)
  | substitute (table : Table Sexp)
  | setVariables (table : Table Sexp)
  | unbind (name : String)
  | unbindAll (names : List String)
  | invoke (name : String) (args : Option Sexp)

namespace Operation

/-- Does an operation, and leaves its value aside. -/
def perform (fuel : Nat) : Operation → Eval Unit
  | .registerFunction name formals body => Eval.registerFunction name formals body *> pure ()
  | .registerLambda formals body => Eval.registerLambda formals body *> pure ()
  | .callNamed name actuals => Call.callNamed (MiniLisp.evaluate fuel) name actuals *> pure ()
  | .callLambda formals actuals => Call.callLambda (MiniLisp.evaluate fuel) formals actuals *> pure ()
  | .evaluate x => evaluatePart fuel x *> pure ()
  | .substitute table => Eval.substitute table
  | .setVariables table => Eval.setVariables table
  | .unbind name => Eval.unbind name
  | .unbindAll names => Eval.unbindAll names
  | .invoke name args => Eval.invokeNamed name args *> pure ()

/-- Operations are done one after the other, whether they end with a value or with an error. -/
inductive Runs : List Operation → Machine → Machine → Prop where
  | nil (m : Machine) : Runs [] m m
  | cons {op : Operation} {ops : List Operation} {m m₁ m' : Machine} {r : Except Error Unit}
      (fuel : Nat) (first : op.perform fuel m = some (r, m₁)) (others : Runs ops m₁ m') :
      Runs (op :: ops) m m'

open Eval (KeepsWellFormed)

/-- One operation keeps an environment well formed. -/
theorem perform_keepsWellFormed (fuel : Nat) (op : Operation) :
    KeepsWellFormed (op.perform fuel) := by
  have C := Environment.WellFormed.coupling
  cases op with
  | registerFunction name formals body =>
    have hname : name ∈ Bounds.all.literals := trivial
    have hfollows := C.registerFunction_follows hname (Sexp.over_univ formals)
      (Sexp.over_univ body)
    exact .discard (.of_follows hfollows)
  | registerLambda formals body =>
    have hfollows := C.registerLambda_follows (Sexp.over_univ formals) (Sexp.over_univ body)
    exact .discard (.of_follows hfollows)
  | callNamed name actuals =>
    apply KeepsWellFormed.discard
    apply KeepsWellFormed.bind .environment
    intro env
    apply KeepsWellFormed.bind (.ofExcept _)
    intro fn
    exact .call fuel fn actuals
  | callLambda formals actuals =>
    apply KeepsWellFormed.discard
    apply KeepsWellFormed.bind .environment
    intro env
    apply KeepsWellFormed.bind (.ofExcept _)
    intro fn
    exact .call fuel fn actuals
  | evaluate x => exact .discard (.evaluatePart fuel x)
  | substitute table => exact .modifyVars fun env => env.vars.merge table
  | setVariables table => exact .modifyVars fun _ => table
  | unbind name => exact .unbind name
  | unbindAll names => exact .unbindAll names
  | invoke name args =>
    apply KeepsWellFormed.discard
    rw [Eval.invokeNamed]
    split
    · exact .ofExcept (.error _)
    · exact .invoke _ args

/-- So do any number of operations. -/
theorem Runs.wellFormed {ops : List Operation} {m m' : Machine} (h : Runs ops m m')
    (hm : m.env.WellFormed) : m'.env.WellFormed := by
  induction h with
  | nil => exact hm
  | @cons op _ _ _ _ _ fuel first _ ih => exact ih (op.perform_keepsWellFormed fuel first hm)

end Operation

/-- Whatever is done with a fresh environment, and whether it succeeds or fails: named functions stand
    under their own names, none of which is a name of anonymous functions; anonymous functions stand
    under their formals; all functions have lists for formals and bodies, and the names of their
    formals in order, which are distinct symbols; and formals that are pending are those of an
    anonymous function. -/
theorem operations_keep_well_formed (ops : List Operation) (output : String) (trace : List Event)
    (m : Machine) (h : Operation.Runs ops { env := {}, output := output, trace := trace } m) :
    m.env.WellFormed :=
  h.wellFormed .fresh

/-- A variable that is not there to be taken away, a definition, one that the name `Lambda` refuses,
    and an application that fails in its body: the definition and the anonymous function of the
    application are there, and nothing is pending. -/
theorem operations_keep_well_formed_failing :
    let x : Sexp := .atom ⟨"X", by decide⟩
    let car : Sexp := .list (.atom ⟨"CAR", by decide⟩) [x]
    let application : Sexp := .list (.list (.atom .lambda) [.list x [], car]) [.atom .t]
    let ops : List Operation :=
      [.unbindAll ["X"], .registerFunction "FIRST" (.list x []) car,
       .registerFunction "Lambda" .nil .nil, .evaluate (.sexp application)]
    ∃ m, Operation.Runs ops {} m ∧ m.env.functions.keys = ["FIRST"] ∧
      m.env.lambdas.keys = ["(X)"] ∧ m.env.pending.isNone = true ∧ m.env.WellFormed := by
  intro x car application ops
  have hruns : Operation.Runs ops {} _ :=
    .cons 0 rfl <| .cons 0 rfl <| .cons 0 rfl <| .cons 4 rfl <| .nil _
  exact ⟨_, hruns, rfl, rfl, rfl, operations_keep_well_formed ops "" [] _ hruns⟩

end MiniLisp
