import Mathlib.Data.Set.Defs
import MiniLisp.Sexp.Build

/-! # The atoms of expressions

Which atoms an expression is made of, and what follows for its parts when the literals of all of
them belong to a set. Lists that pass a check of their form can be taken apart as it says. -/

namespace MiniLisp.Sexp

/-! ## Atoms of an expression -/

mutual

/-- The atoms of an expression, from left to right. -/
def atoms : Sexp → List Atom
  | .atom a => [a]
  | .list head tail => head.atoms ++ atomsOfAll tail

/-- The atoms of several expressions. -/
def atomsOfAll : List Sexp → List Atom
  | [] => []
  | x :: xs => x.atoms ++ atomsOfAll xs

end

theorem mem_atomsOfAll {a : Atom} {xs : List Sexp} :
    a ∈ atomsOfAll xs ↔ ∃ x ∈ xs, a ∈ x.atoms := by
  induction xs with
  | nil => simp [atomsOfAll]
  | cons x xs ih => simp [atomsOfAll, ih]

theorem mem_atoms_list {a : Atom} {head : Sexp} {tail : List Sexp} :
    a ∈ (Sexp.list head tail).atoms ↔ ∃ x ∈ head :: tail, a ∈ x.atoms := by
  rw [atoms, List.mem_append, mem_atomsOfAll]
  simp

/-! ## Expressions over a set of literals -/

/-- All atoms of the expression have their literals in the set. -/
def Over (S : Set String) (x : Sexp) : Prop := ∀ a ∈ x.atoms, a.lit ∈ S

variable {S : Set String}

@[simp] theorem over_atom {a : Atom} : (Sexp.atom a).Over S ↔ a.lit ∈ S := by
  simp [Over, atoms]

theorem over_list {head : Sexp} {tail : List Sexp} :
    (Sexp.list head tail).Over S ↔ ∀ x ∈ head :: tail, x.Over S := by
  constructor
  · intro h x hx a ha
    exact h a (mem_atoms_list.2 ⟨x, hx, ha⟩)
  · intro h a ha
    obtain ⟨x, hx, ha⟩ := mem_atoms_list.1 ha
    exact h x hx a ha

theorem over_univ (x : Sexp) : x.Over Set.univ := fun _ _ => trivial

theorem Over.head {head : Sexp} {tail : List Sexp} (h : (Sexp.list head tail).Over S) :
    head.Over S :=
  over_list.1 h head List.mem_cons_self

theorem Over.tail {head : Sexp} {tail : List Sexp} (h : (Sexp.list head tail).Over S) :
    ∀ x ∈ tail, x.Over S :=
  fun x hx => over_list.1 h x (List.mem_cons_of_mem head hx)

theorem Over.items {x : Sexp} (h : x.Over S) : ∀ y ∈ x.items, y.Over S := by
  cases x with
  | atom a => nofun
  | list head tail => exact over_list.1 h

theorem over_ofList {xs : List Sexp} (hnil : "NIL" ∈ S) (h : ∀ x ∈ xs, x.Over S) :
    (ofList xs).Over S := by
  cases xs with
  | nil => exact over_atom.2 hnil
  | cons x xs => exact over_list.2 h

/-- A set of literals that contains those that the language makes by itself: of truth values, of
    integers, and of the symbol in front of anonymous functions. -/
structure ClosedLiterals (S : Set String) : Prop where
  nil_mem : "NIL" ∈ S
  t_mem : "T" ∈ S
  lambda_mem : "LAMBDA" ∈ S
  integer_mem : ∀ n : Int, String.ofList (Numeral.canonical n) ∈ S

theorem closedLiterals_univ : ClosedLiterals Set.univ :=
  ⟨trivial, trivial, trivial, fun _ => trivial⟩

/-- A set of literals that contains those of truth values and of integers, which primitives make. -/
structure ConstantLiterals (S : Set String) : Prop where
  nil_mem : "NIL" ∈ S
  t_mem : "T" ∈ S
  integer_mem : ∀ n : Int, String.ofList (Numeral.canonical n) ∈ S

theorem ClosedLiterals.constants (h : ClosedLiterals S) : ConstantLiterals S :=
  ⟨h.nil_mem, h.t_mem, h.integer_mem⟩

/-! ## Parts of an expression -/

theorem symbol?_eq_some {x : Sexp} {s : String} (h : x.symbol? = some s) :
    ∃ a : Atom, x = .atom a ∧ a.isSymbol = true ∧ a.lit = s := by
  cases x with
  | atom a =>
    simp only [symbol?] at h
    split at h
    · next hsymbol =>
      cases h
      exact ⟨a, rfl, hsymbol, rfl⟩
    · cases h
  | list head tail => cases h

theorem isNil_iff {x : Sexp} : x.isNil = true ↔ x = .nil := by
  constructor
  · intro h
    cases x with
    | atom a =>
      have hnil : a.lit = "NIL" := by simpa [isNil, Atom.isNil] using h
      cases a
      cases hnil
      rfl
    | list head tail => cases h
  · rintro rfl
    rfl

/-- A list of two elements. -/
theorem eq_list_of_length_items {x : Sexp} (h : x.items.length = 2) : ∃ a b, x = .list a [b] := by
  cases x with
  | atom a => cases h
  | list head tail =>
    obtain ⟨b, rfl⟩ := List.length_eq_one_iff.1 (Nat.succ.inj h)
    exact ⟨head, b, rfl⟩

theorem ofList_items {x : Sexp} (h : x.isListOrNil = true) : ofList x.items = x := by
  cases x with
  | atom a =>
    have hnil : (atom a).isNil = true := by simpa [isListOrNil, isList] using h
    rw [isNil_iff.1 hnil]
    rfl
  | list head tail => rfl

theorem isListOf_two_iff {x : Sexp} : x.isListOf 2 = true ↔ x.items.length = 2 := by
  cases x <;> simp [isListOf, isList, items]

/-- What passes as a list of two can be taken apart into two. -/
theorem eq_list_of_isListOf {x : Sexp} (h : x.isListOf 2 = true) : ∃ a b, x = .list a [b] :=
  eq_list_of_length_items (isListOf_two_iff.1 h)

/-- What passes as an anonymous function can be taken apart into its name, formals and body. -/
theorem isLambdaForm_iff_exists {x : Sexp} :
    x.isLambdaForm = true ↔
      ∃ a formals body, x = .list (.atom a) [formals, body] ∧ isLambdaName a.text = true := by
  constructor
  · intro h
    rw [isLambdaForm.eq_def] at h
    split at h
    · next a tail =>
      simp only [isListOf, Bool.and_eq_true, decide_eq_true_eq] at h
      obtain ⟨hname, -, hlength⟩ := h
      match tail, hlength with
      | [formals, body], _ => exact ⟨a, formals, body, rfl, hname⟩
    · cases h
  · rintro ⟨a, formals, body, rfl, hname⟩
    rw [isLambdaForm, hname]
    rfl

/-- The formals and body of an anonymous function, if the expression has the form of one. -/
def lambdaParts? : Sexp → Option (Sexp × Sexp)
  | .list (.atom a) [formals, body] => if isLambdaName a.text then some (formals, body) else none
  | _ => none

/-- An expression has the parts of an anonymous function exactly if it passes as one and is taken
    apart into them. -/
theorem lambdaParts?_eq_some_iff {x formals body : Sexp} :
    x.lambdaParts? = some (formals, body) ↔
      x.isLambdaForm = true ∧ ∃ head, x.triple = .ok (head, formals, body) := by
  constructor
  · intro h
    rw [lambdaParts?.eq_def] at h
    split at h
    · next a _ _ =>
      split at h
      · next hname =>
        cases h
        exact ⟨isLambdaForm_iff_exists.2 ⟨a, formals, body, rfl, hname⟩, .atom a, rfl⟩
      · cases h
    · cases h
  · rintro ⟨hform, head, htriple⟩
    obtain ⟨a, formals', body', rfl, hname⟩ := isLambdaForm_iff_exists.1 hform
    cases htriple
    exact if_pos hname

theorem Over.symbol? {x : Sexp} {s : String} (hx : x.Over S) (h : x.symbol? = some s) : s ∈ S := by
  obtain ⟨a, rfl, -, rfl⟩ := symbol?_eq_some h
  exact over_atom.1 hx

theorem Over.second {a b : Sexp} (h : (Sexp.list a [b]).Over S) : b.Over S := h.tail b (by simp)

end MiniLisp.Sexp
