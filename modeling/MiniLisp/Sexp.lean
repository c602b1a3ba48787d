import MiniLisp.Atom
import MiniLisp.Text.Quoted

/-! # Expressions

Programs and the values that they compute are S-expressions: atoms and lists. A list that has
elements is given by the first of them and the others; the list without elements is the atom `NIL`.
So every list ends in `NIL`, and there is one expression for each way of writing it. -/

namespace MiniLisp

/-- An atom, or a list of at least one expression. -/
inductive Sexp where
  | atom (a : Atom)
  | list (head : Sexp) (tail : List Sexp)

namespace Sexp

/-- The list without elements. -/
def nil : Sexp := .atom .nil

instance : Inhabited Sexp := ⟨nil⟩

/-- A list of any number of expressions. -/
def ofList : List Sexp → Sexp
  | [] => nil
  | head :: tail => .list head tail

/-- The elements of a list. An atom has none. -/
def items : Sexp → List Sexp
  | .atom _ => []
  | .list head tail => head :: tail

/-- Whether the expression is a list with elements. -/
def isList : Sexp → Bool
  | .atom _ => false
  | .list _ _ => true

/-- Whether the expression is `NIL`. -/
def isNil : Sexp → Bool
  | .atom a => a.isNil
  | .list _ _ => false

/-- Whether the expression is a list, with or without elements. -/
def isListOrNil (x : Sexp) : Bool := x.isList || x.isNil

/-- The name that a symbol gives. -/
def symbol? : Sexp → Option String
  | .atom a => if a.isSymbol then some a.lit else none
  | .list _ _ => none

/-- Whether the expression is a list of `n` elements. -/
def isListOf (n : Nat) (x : Sexp) : Bool := x.isList && x.items.length = n

mutual

/-- The characters that show an expression: an atom's text, or the elements between parentheses with
    a space between neighbours. -/
def chars : Sexp → List Char
  | .atom a => a.text.toList
  | .list head tail => '(' :: (head.chars ++ tailChars tail)

/-- The characters that follow the first element of a list. -/
def tailChars : List Sexp → List Char
  | [] => [')']
  | x :: xs => ' ' :: (x.chars ++ tailChars xs)

end

/-- The text that shows an expression. -/
def render (x : Sexp) : String := String.ofList x.chars

/-- Expressions are equal when they look alike. -/
instance : BEq Sexp := ⟨fun x y => x.render == y.render⟩

/-- An expression's text in quotes, after a word for what it is. -/
def inspect (x : Sexp) : String :=
  (if x.isList then "SExpression" else "Atom") ++ "(" ++ Text.quoted x.render ++ ")"

/-- Whether the expression has the form of an anonymous function: a name of these, and two parts. -/
def isLambdaForm (x : Sexp) : Bool :=
  match x with
  | .list (.atom a) _ => isLambdaName a.text && x.isListOf 3
  | _ => false

@[simp] theorem items_ofList (xs : List Sexp) : (ofList xs).items = xs := by
  cases xs <;> rfl

@[simp] theorem isListOrNil_ofList (xs : List Sexp) : (ofList xs).isListOrNil = true := by
  cases xs <;> rfl

/-- To prove something of all expressions it is enough to prove it of atoms, and of lists all of
    whose elements have it. -/
theorem induction {P : Sexp → Prop} (atom : ∀ a, P (.atom a))
    (list : ∀ head tail, P head → (∀ x ∈ tail, P x) → P (.list head tail)) : ∀ x, P x :=
  Sexp.rec atom list (fun _ hx => nomatch hx) fun x xs hx hxs y hy => by
    rcases List.mem_cons.1 hy with rfl | hy
    · exact hx
    · exact hxs y hy

end Sexp

end MiniLisp
