import MiniLisp.Error

/-! # Building expressions

Expressions made from parts that may not fit, with the complaint when they do not, and lists taken
apart whose elements may not be as many as expected. -/

namespace MiniLisp

/-- The atom with a given text. -/
def Atom.ofText (s : String) : Except Error Atom :=
  match Atom.ofText? s with
  | some a => .ok a
  | none => .error (.invalidAtom (.text s))

/-- The atom of an integer in decimal. -/
def Atom.ofInteger (n : Int) : Except Error Atom := (Atom.ofInt n).mapError .overflow

/-- The number that an integer denotes. -/
def Atom.value (a : Atom) : Except Error Int :=
  if a.isInt then (Numeral.read a.lit.toList).mapError .overflow else .error (.notAnInteger a)

/-- A part that is offered for a list: an expression, or something else. -/
inductive Part where
  | sexp (x : Sexp)
  | foreign (v : Foreign)
  deriving Inhabited

namespace Sexp

/-- The list with a given first element and rest. The element is looked at before the rest. -/
def cons : Part → Part → Except Error Sexp
  | .foreign v, _ => .error (.invalidElement v)
  | .sexp _, .foreign v => .error (.foreignTail v)
  | .sexp head, .sexp tail =>
    if tail.isListOrNil then .ok (.list head tail.items) else .error (.invalidTail tail)

/-- The two elements of a list. -/
def pair (x : Sexp) : Except Error (Sexp × Sexp) :=
  match x.items with
  | [a, b] => .ok (a, b)
  | items => .error (.elementCount 2 items.length)

/-- The three elements of a list. -/
def triple (x : Sexp) : Except Error (Sexp × Sexp × Sexp) :=
  match x.items with
  | [a, b, c] => .ok (a, b, c)
  | items => .error (.elementCount 3 items.length)

/-- Changing a part of an expression, which is always refused. -/
def change (x : Sexp) (c : Change) (slot : String) : Except Error Sexp :=
  .error (.immutable x c slot)

theorem cons_of_isListOrNil {tail : Sexp} (h : tail.isListOrNil = true) (head : Sexp) :
    cons (.sexp head) (.sexp tail) = .ok (.list head tail.items) :=
  if_pos h

@[simp] theorem cons_ofList (x : Sexp) (xs : List Sexp) :
    cons (.sexp x) (.sexp (ofList xs)) = .ok (.list x xs) := by
  rw [cons_of_isListOrNil (isListOrNil_ofList xs), items_ofList]

/-- The list of some elements is what they build from the last to the first. None of them is
    refused. -/
theorem foldrM_cons_eq_ofList (xs : List Sexp) :
    xs.foldrM (fun x tail => cons (.sexp x) (.sexp tail)) nil = .ok (ofList xs) := by
  induction xs with
  | nil => rfl
  | cons x xs ih =>
    rw [List.foldrM_cons, ih]
    exact cons_ofList x xs

end Sexp

end MiniLisp
