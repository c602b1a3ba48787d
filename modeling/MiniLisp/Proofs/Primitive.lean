import Mathlib.Data.List.Basic
import MiniLisp.Primitive
import MiniLisp.Proofs.Sexp

/-! # The values and errors of primitives

A primitive makes its value of the atoms of its arguments, truth values and integers. Called with as
many arguments as it takes, it complains about what they are and never about their number. -/

namespace MiniLisp

/-! ## Ends of computations -/

/-- An end is a value that has a property, or one of some errors. -/
def Ends {α : Type} (E : Error → Prop) (Q : α → Prop) : Except Error α → Prop
  | .ok a => Q a
  | .error e => E e

namespace Ends

variable {α β : Type} {E F : Error → Prop} {P : α → Prop} {Q : β → Prop}

theorem bind {r : Except Error α} {f : α → Except Error β} (hr : Ends E P r)
    (hf : ∀ a, P a → Ends E Q (f a)) : Ends E Q (r >>= f) := by
  cases r with
  | error e => exact hr
  | ok a => exact hf a hr

theorem map {r : Except Error α} {f : α → β} (hr : Ends E P r) (hf : ∀ a, P a → Q (f a)) :
    Ends E Q (f <$> r) := by
  cases r with
  | error e => exact hr
  | ok a => exact hf a hr

theorem imp {r : Except Error α} {P' : α → Prop} (hr : Ends E P r) (hP : ∀ a, P a → P' a) :
    Ends E P' r := by
  cases r with
  | error e => exact hr
  | ok a => exact hP a hr

theorem mono {r : Except Error α} (hr : Ends E P r) (hEF : ∀ e, E e → F e) : Ends F P r := by
  cases r with
  | error e => exact hEF e hr
  | ok a => exact hr

end Ends

/-- The errors about what the arguments of a primitive are. -/
def Error.isOfArguments : Error → Bool
  | .integerExpected .. | .listExpected .. | .tailExpected _ | .atomsExpected ..
  | .divisionByZero _ | .overflow _ => true
  | _ => false

namespace Primitive

/-- A value over the literals `S`, or an error about arguments. -/
abbrev ValueOver (S : Set String) : Except Error Sexp → Prop :=
  Ends (fun e => e.isOfArguments = true) (Sexp.Over S)

/-! ## Arguments -/

theorem integerArgument_ends (p : Primitive) (x : Sexp) :
    Ends (fun e => e.isOfArguments = true) (fun _ => True) (p.integerArgument x) := by
  cases x with
  | list head tail => rfl
  | atom a =>
    rw [integerArgument]
    split
    · next hint =>
      -- the atom is an integer, so only its length can be wrong
      rw [Atom.value, if_pos hint, Numeral.read]
      split
      · rfl
      · trivial
    · rfl

theorem divisorArgument_ends (p : Primitive) (x : Sexp) :
    Ends (fun e => e.isOfArguments = true) (fun _ => True) (p.divisorArgument x) := by
  apply (p.integerArgument_ends x).bind
  intro d _
  split
  · rfl
  · trivial

theorem listArgument_ends (p : Primitive) {S : Set String} {x : Sexp} (hx : x.Over S) :
    Ends (fun e => e.isOfArguments = true) (fun parts => ∀ y ∈ parts.1 :: parts.2, y.Over S)
      (p.listArgument x) := by
  cases x with
  | atom a => rfl
  | list head tail => exact Sexp.over_list.1 hx

/-! ## Values -/

theorem arity?_cases (p : Primitive) : p = .list ∨ p.arity? = some 1 ∨ p.arity? = some 2 := by
  cases p <;> simp [arity?]

variable {S : Set String}

theorem cons_over {a b : Sexp} (ha : a.Over S) (hb : b.Over S) :
    ValueOver S (apply .cons [a, b]) := by
  rw [apply]
  split
  · next hlist =>
    rw [Sexp.cons_of_isListOrNil hlist]
    refine Sexp.over_list.2 fun y hy => ?_
    rcases List.mem_cons.1 hy with rfl | hy
    · exact ha
    · exact hb.items y hy
  · rfl

theorem onIntegers_over (p : Primitive) (a b : Sexp) {f : Int → Int → Except Error Sexp}
    (hf : ∀ x y, ValueOver S (f x y)) : ValueOver S (p.onIntegers a b f) := by
  apply (p.integerArgument_ends a).bind
  intro x _
  apply (p.integerArgument_ends b).bind
  intro y _
  exact hf x y

section

variable (hS : Sexp.ConstantLiterals S)
include hS

theorem testResult_over (b : Bool) : ValueOver S (testResult b) := by
  cases b with
  | false => exact Sexp.over_atom.2 hS.nil_mem
  | true => exact Sexp.over_atom.2 hS.t_mem

theorem integerResult_over (n : Int) : ValueOver S (integerResult n) := by
  rw [integerResult, Atom.ofInteger, Atom.ofInt]
  split
  · rfl
  · exact Sexp.over_atom.2 (hS.integer_mem n)

theorem onDivision_over (p : Primitive) (a b : Sexp) (f : Int → Int → Int) :
    ValueOver S (p.onDivision a b f) := by
  apply (p.integerArgument_ends a).bind
  intro x _
  apply (p.divisorArgument_ends b).bind
  intro y _
  exact integerResult_over hS (f x y)

theorem eq_over (a b : Sexp) : ValueOver S (apply .eq [a, b]) := by
  rw [apply]
  split
  · rfl
  · exact testResult_over hS (a == b)

theorem apply_over_of_one {p : Primitive} (hp : p.arity? = some 1) {a : Sexp} (ha : a.Over S) :
    ValueOver S (p.apply [a]) := by
  cases p with
  | car =>
    apply (listArgument_ends .car ha).map
    intro parts hparts
    exact hparts _ List.mem_cons_self
  | cdr =>
    apply (listArgument_ends .cdr ha).map
    intro parts hparts
    exact Sexp.over_ofList hS.nil_mem fun y hy => hparts y (List.mem_cons_of_mem _ hy)
  | atom => exact testResult_over hS _
  | int =>
    cases a with
    | atom a => exact testResult_over hS _
    | list head tail => exact testResult_over hS _
  | null => exact testResult_over hS _
  | print => exact ha
  | list | cons | eq | plus | minus | times | quotient | remainder | less | greater => cases hp

theorem apply_over_of_two {p : Primitive} (hp : p.arity? = some 2) {a b : Sexp} (ha : a.Over S)
    (hb : b.Over S) : ValueOver S (p.apply [a, b]) := by
  cases p with
  | cons => exact cons_over ha hb
  | eq => exact eq_over hS a b
  | plus | minus | times => exact onIntegers_over _ a b fun x y => integerResult_over hS _
  | less | greater => exact onIntegers_over _ a b fun x y => testResult_over hS _
  | quotient | remainder => exact onDivision_over hS _ a b _
  | car | cdr | list | atom | int | null | print => cases hp

/-- A primitive that is called with as many arguments as it takes makes its value of their atoms,
    truth values and integers, or complains about the arguments. -/
theorem apply_over_of_constants {p : Primitive} {args : List Sexp}
    (hcount : p.accepts args.length = true) (hargs : ∀ x ∈ args, x.Over S) :
    ValueOver S (p.apply args) := by
  rcases p.arity?_cases with rfl | hp | hp
  · exact Sexp.over_ofList hS.nil_mem hargs
  · have hlength : args.length = 1 := by simpa [accepts, hp] using hcount
    obtain ⟨a, rfl⟩ := List.length_eq_one_iff.1 hlength
    exact apply_over_of_one hS hp (hargs a (by simp))
  · have hlength : args.length = 2 := by simpa [accepts, hp] using hcount
    obtain ⟨a, b, rfl⟩ := List.length_eq_two.1 hlength
    exact apply_over_of_two hS hp (hargs a (by simp)) (hargs b (by simp))

end

theorem apply_over (hS : Sexp.ClosedLiterals S) {p : Primitive} {args : List Sexp}
    (hcount : p.accepts args.length = true) (hargs : ∀ x ∈ args, x.Over S) :
    ValueOver S (p.apply args) :=
  apply_over_of_constants hS.constants hcount hargs

/-- What is printed is the line of an argument, or nothing. -/
theorem printed_cases (p : Primitive) (args : List Sexp) :
    p.printed args = "" ∨ ∃ x ∈ args, p.printed args = x.render ++ "\n" := by
  rw [printed.eq_def]
  split
  · next a => exact Or.inr ⟨a, List.mem_singleton_self a, rfl⟩
  · exact Or.inl rfl

end Primitive

end MiniLisp
