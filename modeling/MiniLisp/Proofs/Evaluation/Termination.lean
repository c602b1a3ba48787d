import MiniLisp.Proofs.Atom
import MiniLisp.Proofs.Evaluation.Bounds
import MiniLisp.Proofs.Evaluation.Restoration
import MiniLisp.Proofs.Evaluation.Target

/-! # Evaluation without functions ends

Evaluation goes on with a part of the expression at hand, except where a function is called: there it
goes on with the body, which may be any expression. Where no function is defined, functions come only
from the forms that make them and from values that have the form of one. An expression in which none
of their names occurs computes no such value, whatever lists it assembles, so its evaluation is no
deeper than its nesting, and leaves the environment as it is. -/

namespace MiniLisp

/-! ## Expressions without functions -/

/-- Whether functions are made, or recognised in front of a value, by this name. -/
def namesFunctions (s : String) : Bool :=
  Text.upper s ∈ ["LAMBDA", "Λ", "DEFUN"] || Text.lower s ∈ ["lambda", "λ"]

/-- The literals of integers, and of symbols that do not name functions. -/
def functionFreeLiterals : Set String :=
  {s | isIntegerLiteral s = false → namesFunctions s = false}

/-- What primitives make by themselves names no functions. -/
theorem constantLiterals_functionFreeLiterals : Sexp.ConstantLiterals functionFreeLiterals where
  nil_mem _ := by decide
  t_mem _ := by decide
  integer_mem n hsymbol := by
    simp [isIntegerLiteral, String.toList_ofList, Numeral.isNumeral_canonical] at hsymbol

namespace Sexp

/-- No symbol of the expression names functions. -/
def FunctionFree (x : Sexp) : Prop := x.Over functionFreeLiterals

instance (x : Sexp) : Decidable x.FunctionFree :=
  inferInstanceAs (Decidable (∀ a ∈ x.atoms,
    isIntegerLiteral a.lit = false → namesFunctions a.lit = false))

/-- A value without functions cannot be applied. -/
theorem FunctionFree.not_isLambdaForm {x : Sexp} (h : x.FunctionFree) :
    ¬ x.isLambdaForm = true := by
  intro hlambda
  obtain ⟨a, formals, body, rfl, hname⟩ := isLambdaForm_iff_exists.1 hlambda
  have hsymbol := Atom.isSymbolLiteral_of_isLambdaName_text hname
  have hfree : namesFunctions a.lit = false :=
    h a (by simp [atoms]) (isIntegerLiteral_of_isSymbolLiteral hsymbol)
  rw [(Atom.text_of_isSymbolLiteral hsymbol).1] at hname
  simp_all [namesFunctions, isLambdaName]

/-! ## Nesting -/

mutual

/-- How deep an expression is nested. An atom is one deep. -/
def depth : Sexp → Nat
  | .atom _ => 1
  | .list head tail => max head.depth (depthOfAll tail) + 1

/-- The largest depth among expressions. -/
def depthOfAll : List Sexp → Nat
  | [] => 0
  | x :: xs => max x.depth (depthOfAll xs)

end

theorem depth_le_depthOfAll {x : Sexp} {xs : List Sexp} (h : x ∈ xs) : x.depth ≤ depthOfAll xs := by
  induction xs with
  | nil => simp at h
  | cons y ys ih =>
    unfold depthOfAll
    rcases List.mem_cons.1 h with rfl | h
    · omega
    · have := ih h
      omega

theorem depth_pos (x : Sexp) : 0 < x.depth := by
  cases x <;> simp [depth]

/-- An expression without functions that is nested at most `n` deep. -/
structure Within (n : Nat) (x : Sexp) : Prop where
  functionFree : x.FunctionFree
  depth_le : x.depth ≤ n

namespace Within

variable {n : Nat} {x : Sexp}

/-- The parts of a list are nested less deep. -/
theorem parts {head : Sexp} {tail : List Sexp} (h : (Sexp.list head tail).Within (n + 1)) :
    ∀ x ∈ head :: tail, x.Within n := by
  intro x hx
  refine ⟨over_list.1 h.functionFree x hx, ?_⟩
  have hdepth := h.depth_le
  unfold depth at hdepth
  rcases List.mem_cons.1 hx with rfl | hx
  · omega
  · have := depth_le_depthOfAll hx
    omega

theorem items (h : x.Within n) : ∀ y ∈ x.items, y.Within n := by
  intro y hy
  cases x with
  | atom a => simp [Sexp.items] at hy
  | list head tail =>
    have hlarger : (Sexp.list head tail).Within (n + 1) :=
      ⟨h.functionFree, Nat.le_succ_of_le h.depth_le⟩
    exact hlarger.parts y hy

theorem pair {a b : Sexp} (h : (Sexp.list a [b]).Within n) : a.Within n ∧ b.Within n :=
  ⟨h.items a (by simp [Sexp.items]), h.items b (by simp [Sexp.items])⟩

end Within

end Sexp

/-! ## Machines without functions -/

/-- The bounds on a run without functions. -/
def functionFreeBounds : Bounds := ⟨functionFreeLiterals, fun _ => True, fun _ => True⟩

/-- No functions are defined, and none can be made of the values of variables. -/
structure Machine.FunctionFree (m : Machine) : Prop where
  functions : m.env.functions = ∅
  vars : functionFreeBounds.HoldsOf m.env.vars

namespace Machine.FunctionFree

variable {m : Machine}

theorem of_env {m' : Machine} (h : m.FunctionFree) (henv : m'.env = m.env) : m'.FunctionFree := by
  refine ⟨?_, ?_⟩
  · rw [henv]
    exact h.functions
  · rw [henv]
    exact h.vars

theorem substitute {table : Table Sexp} (h : m.FunctionFree)
    (htable : functionFreeBounds.HoldsOf table) :
    Machine.FunctionFree { m with env := m.env.substitute table } :=
  ⟨h.functions, h.vars.merge htable⟩

end Machine.FunctionFree

/-- What may stand in front of a list in an expression without functions: a primitive, or a special
    form that makes none. -/
def Target.isFunctionFree : Target → Bool
  | .special .quote | .special .cond | .special .letForm | .primitive _ => true
  | .special .defun | .special .lambda | .function _ | .lambda _ => false

theorem SpecialForm.ofName?_functionFree {s : String} (hs : namesFunctions s = false)
    {form : SpecialForm} (h : ofName? s = some form) :
    (Target.special form).isFunctionFree = true := by
  simp only [namesFunctions, Bool.or_eq_false_iff, decide_eq_false_iff_not, List.mem_cons,
    List.not_mem_nil, or_false, not_or] at hs
  obtain ⟨⟨hlambda, hgreek, hdefun⟩, -⟩ := hs
  simp only [ofName?, if_neg hgreek] at h
  have hname : form.name = Text.upper s := by simpa [named?] using List.find?_some h
  cases form with
  | defun => exact absurd hname.symm hdefun
  | lambda => exact absurd hname.symm hlambda
  | quote | cond | letForm => rfl

/-- Where there are no functions, none is found. -/
theorem Machine.FunctionFree.target? {m : Machine} (hm : m.FunctionFree) {s : String}
    (hs : namesFunctions s = false) {target : Target} (h : m.env.target? s = some target) :
    target.isFunctionFree = true := by
  have hfunction : m.env.functions.get? s = none := by
    rw [hm.functions]
    rfl
  cases Environment.target?_eq_some_iff.1 h with
  | special found => exact SpecialForm.ofName?_functionFree hs found
  | function _ found =>
    rw [hfunction] at found
    cases found
  | primitive => rfl
  | lambda _ _ _ found isLambda =>
    exact absurd isLambda (Sexp.FunctionFree.not_isLambdaForm (hm.vars s _ found))

/-! ## Computations that end -/

/-- On every machine without functions the computation ends, with an error or with a value that has
    the property `Q`, and leaves the environment as it is. -/
def Eval.Completes {α : Type} (Q : α → Prop) (x : Eval α) : Prop :=
  ∀ ⦃m : Machine⦄, m.FunctionFree →
    ∃ r m', x m = some (r, m') ∧ Ends (fun _ => True) Q r ∧ m'.env = m.env

namespace Eval.Completes

variable {α β : Type} {P : α → Prop} {Q : β → Prop}

theorem ofExcept {r : Except Error α} (h : Ends (fun _ => True) P r) :
    Completes P (Eval.ofExcept r) :=
  fun m _ => ⟨r, m, rfl, h, rfl⟩

theorem pure {a : α} (h : P a) : Completes P (Pure.pure a) := ofExcept (r := .ok a) h

theorem raise (e : Error) : Completes P (Eval.raise e : Eval α) := ofExcept (r := .error e) trivial

theorem record (event : Event) : Completes (fun _ => True) (Eval.record event) :=
  fun _ _ => ⟨_, _, rfl, trivial, rfl⟩

theorem print (text : String) : Completes (fun _ => True) (Eval.print text) :=
  fun _ _ => ⟨_, _, rfl, trivial, rfl⟩

theorem variableValue (name : String) : Completes Sexp.FunctionFree (Eval.variableValue name) := by
  intro m hm
  have hrun : Eval.variableValue name m = some (m.env.variableValue name, m) := rfl
  refine ⟨_, m, hrun, ?_, rfl⟩
  unfold Environment.variableValue
  split
  · next hvalue => exact hm.vars name _ hvalue
  · trivial

theorem bind {x : Eval α} {f : α → Eval β} (hx : Completes P x)
    (hf : ∀ a, P a → Completes Q (f a)) : Completes Q (x >>= f) := by
  intro m hm
  obtain ⟨r, m₁, hrun, hend, henv⟩ := hx hm
  cases r with
  | error e => exact ⟨.error e, m₁, by simp [hrun], trivial, henv⟩
  | ok a =>
    obtain ⟨r, m₂, hrun₂, hend₂, henv₂⟩ := hf a hend (hm.of_env henv)
    exact ⟨r, m₂, by simp [hrun, hrun₂], hend₂, henv₂.trans henv⟩

end Eval.Completes

open Eval (Completes)

variable {ev : Evaluator} {n : Nat}

/-- A primitive ends, and gives no function that was not among its arguments. -/
theorem invoke_completes (p : Primitive) {args : List Sexp} (hargs : ∀ x ∈ args, x.FunctionFree) :
    Completes Sexp.FunctionFree (Eval.invoke p (some (.ofList args))) := by
  unfold Eval.invoke
  simp only [Option.map_some, Option.getD_some, Sexp.items_ofList]
  split
  · next hcount =>
    apply Completes.bind (.record _)
    intro _ _
    apply Completes.bind (.print _)
    intro _ _
    have hvalue := Primitive.apply_over_of_constants constantLiterals_functionFreeLiterals hcount
      hargs
    exact .ofExcept (hvalue.mono fun _ _ => trivial)
  · exact .raise _

theorem evaluateAll_completes {xs : List Sexp}
    (hxs : ∀ x ∈ xs, Completes Sexp.FunctionFree (ev x)) :
    Completes (fun values => ∀ v ∈ values, v.FunctionFree) (Call.evaluateAll ev xs) := by
  induction xs with
  | nil => exact .pure (by simp)
  | cons x xs ih =>
    apply Completes.bind (hxs x (by simp))
    intro value hvalue
    apply Completes.bind (ih fun y hy => hxs y (by simp [hy]))
    intro values hvalues
    exact .pure (by simpa using ⟨hvalue, hvalues⟩)

/-! ## Special forms -/

section

variable (hev : ∀ y : Sexp, y.Within n → Completes Sexp.FunctionFree (ev y))
include hev

theorem evaluateClauses_completes {clauses : List Sexp} (hclauses : ∀ c ∈ clauses, c.Within n)
    (hlists : ∀ c ∈ clauses, c.isListOf 2 = true) :
    Completes Sexp.FunctionFree (SpecialForm.evaluateClauses ev clauses) := by
  induction clauses with
  | nil => exact .raise _
  | cons clause rest ih =>
    rw [List.forall_mem_cons] at hclauses hlists
    obtain ⟨test, expr, rfl⟩ := Sexp.eq_list_of_isListOf hlists.1
    obtain ⟨htest, hexpr⟩ := hclauses.1.pair
    rw [SpecialForm.evaluateClauses_cons]
    apply Completes.bind (hev test htest)
    intro value _
    split
    · exact ih hclauses.2 hlists.2
    · exact hev expr hexpr

theorem evaluateBindings_completes {specs : List Sexp} (hspecs : ∀ x ∈ specs, x.Within n)
    {table : Table Sexp} (htable : functionFreeBounds.HoldsOf table) :
    Completes functionFreeBounds.HoldsOf (SpecialForm.evaluateBindings ev specs table) := by
  induction specs generalizing table with
  | nil => exact .pure htable
  | cons binding rest ih =>
    rw [List.forall_mem_cons] at hspecs
    by_cases hlist : binding.isListOf 2 = true
    · obtain ⟨name, expr, rfl⟩ := Sexp.eq_list_of_isListOf hlist
      rw [SpecialForm.evaluateBindings_cons]
      cases name.symbol? with
      | none => exact .raise _
      | some s =>
        apply Completes.bind (hev expr hspecs.1.pair.2)
        intro value hvalue
        exact ih hspecs.2 (htable.insert s hvalue)
    · rw [SpecialForm.evaluateBindings_of_not_isListOf hlist]
      exact .raise _

/-- The body of a scope runs in a larger environment, and the end of the scope gives the one from
    before back. -/
theorem evaluateLet_completes {args : List Sexp} (hargs : ∀ x ∈ args, x.Within n) :
    Completes Sexp.FunctionFree (SpecialForm.evaluateLet ev args) := by
  rw [SpecialForm.evaluateLet.eq_def]
  split
  · next specs body =>
    have hspecs := (hargs specs (by simp)).items
    apply Completes.bind (evaluateBindings_completes hev hspecs Bounds.holdsOf_empty)
    intro bindings hbindings m hm
    obtain ⟨r, m₁, hrun, hend, henv⟩ := hev body (hargs body (by simp)) (hm.substitute hbindings)
    have hinner : m₁.env.vars = m.env.vars.merge bindings := by rw [henv]; rfl
    refine ⟨r, _, Eval.ensuring_of_ok hrun (SpecialForm.endScope_run hinner), hend, ?_⟩
    simp only [henv]
    rfl
  · exact .raise _

/-! ## Evaluation -/

theorem applyTarget_completes {args : List Sexp} (hargs : ∀ x ∈ args, x.Within n) {target : Target}
    (h : target.isFunctionFree = true) :
    Completes Sexp.FunctionFree (applyTarget ev args target) := by
  cases target with
  | special form =>
    cases form with
    | quote =>
      rw [applyTarget, SpecialForm.evaluate, SpecialForm.evaluateQuote.eq_def]
      split
      · exact .pure (hargs _ (by simp)).functionFree
      · exact .raise _
    | cond =>
      have hcheck := SpecialForm.checkClauses_ends args
      apply Completes.bind (.ofExcept (hcheck.mono fun _ _ => trivial))
      intro _ hlists
      exact evaluateClauses_completes hev hargs hlists
    | letForm => exact evaluateLet_completes hev hargs
    | defun | lambda => cases h
  | primitive p =>
    apply Completes.bind (evaluateAll_completes fun x hx => hev x (hargs x hx))
    intro values hvalues
    exact invoke_completes p hvalues
  | function fn => cases h
  | lambda form => cases h

theorem applyNamed_completes {name : String} (hname : namesFunctions name = false)
    {args : List Sexp} (hargs : ∀ x ∈ args, x.Within n) :
    Completes Sexp.FunctionFree (applyNamed ev name args) := by
  intro m hm
  simp only [applyNamed, Eval.run_bind, Eval.run_environment]
  cases htarget : m.env.target? name with
  | none => exact Completes.raise _ hm
  | some target => exact applyTarget_completes hev hargs (hm.target? hname htarget) hm

/-- One step ends if the evaluation of the parts does. -/
theorem step_completes {x : Sexp} (hx : x.Within (n + 1)) :
    Completes Sexp.FunctionFree (step ev x) := by
  cases x with
  | atom a =>
    rw [step]
    split
    · exact .pure hx.functionFree
    · exact .variableValue a.lit
  | list head args =>
    have hparts := hx.parts
    cases head with
    | atom a =>
      rw [step]
      split
      · exact .raise _
      · next hvariable =>
        have hsymbol : isIntegerLiteral a.lit = false := by
          simp_all [Atom.isConstant, Atom.isInt]
        have hname : namesFunctions a.lit = false :=
          hx.functionFree a (by simp [Sexp.atoms]) hsymbol
        exact applyNamed_completes hev hname fun y hy => hparts y (by simp [hy])
    | list head tail =>
      rw [step]
      apply Completes.bind (hev _ (hparts _ (by simp)))
      intro fn hfn
      -- the value in front is no function, so it is refused
      rw [applyValue, if_neg hfn.not_isLambdaForm]
      exact .raise _

end

/-- An expression without functions is evaluated no deeper than it is nested. -/
theorem evaluate_completes {fuel : Nat} {x : Sexp} (hx : x.Within fuel) :
    Completes Sexp.FunctionFree (evaluate fuel x) := by
  induction fuel generalizing x with
  | zero =>
    have hpos := x.depth_pos
    have hdepth := hx.depth_le
    omega
  | succ fuel ih => exact step_completes (fun y hy => ih hy) hx

/-- On a machine without functions, the evaluation of every expression ends in which no symbol names
    functions, if none occurs in the values of variables either; and it leaves functions, anonymous
    functions, pending formals and variables as they are. -/
theorem evaluates_without_functions {x : Sexp} {m : Machine} (hfunctions : m.env.functions = ∅)
    (hx : x.FunctionFree) (hvars : ∀ name v, m.env.vars.get? name = some v → v.FunctionFree) :
    ∃ r m', Evaluates x m r m' ∧ m'.env = m.env := by
  have hm : m.FunctionFree := ⟨hfunctions, hvars⟩
  obtain ⟨r, m', hrun, -, henv⟩ := evaluate_completes ⟨hx, Nat.le_refl x.depth⟩ hm
  exact ⟨r, m', ⟨x.depth, hrun⟩, henv⟩

/-- `(LET ((F (CONS 'LAMB X))) (COND ((NULL F) (F 1)) ((ATOM 'A) ((CDR F) (PRINT 2)))))` where the
    value of `X` is `((Y) Y)`, and a function is registered for the formals `(X)`, which are pending:
    a list that almost has the form of a function is assembled, bound and applied. -/
theorem evaluates_without_functions_assembled :
    let x : Sexp := .atom ⟨"X", by decide⟩
    let y : Sexp := .atom ⟨"Y", by decide⟩
    let f : Sexp := .atom ⟨"F", by decide⟩
    let quote (z : Sexp) : Sexp := .list (.atom .quote) [z]
    let lamb : Sexp := .list (.atom ⟨"CONS", by decide⟩) [quote (.atom ⟨"LAMB", by decide⟩), x]
    let apply : Sexp := .list (.list (.atom ⟨"CDR", by decide⟩) [f])
      [.list (.atom ⟨"PRINT", by decide⟩) [.atom ⟨"2", by decide⟩]]
    let choose : Sexp := .list (.atom ⟨"COND", by decide⟩)
      [.list (.list (.atom ⟨"NULL", by decide⟩) [f]) [.list f [.atom ⟨"1", by decide⟩]],
       .list (.list (.atom ⟨"ATOM", by decide⟩) [quote (.atom ⟨"A", by decide⟩)]) [apply]]
    let form : Sexp := .list (.atom ⟨"LET", by decide⟩) [.list (.list f [lamb]) [], choose]
    let value : Sexp := .list (.list y []) [y]
    let m : Machine := { env :=
      { vars := Table.ofList [("X", value)]
        lambdas := Table.ofList [("(X)", ⟨.anonymous, ["X"], .list x [], .nil⟩)]
        pending := some (.list x []) } }
    form.FunctionFree ∧ value.FunctionFree ∧ ∃ r m', Evaluates form m r m' ∧ m'.env = m.env := by
  intro x y f quote lamb apply choose form value m
  have hform : form.FunctionFree := by decide +kernel
  have hvalue : value.FunctionFree := by decide +kernel
  have hvars : ∀ name v, m.env.vars.get? name = some v → v.FunctionFree := by
    intro name v hv
    change Table.find name [("X", value)] = some v at hv
    rw [Table.find] at hv
    split at hv
    · cases hv
      exact hvalue
    · cases hv
  exact ⟨hform, hvalue, evaluates_without_functions rfl hform hvars⟩

end MiniLisp
