import MiniLisp.Literal

/-! # Atoms

An atom is a symbol or an integer, and keeps the text that it was written with. `T` and `NIL` are
the two symbols that stand for truth values. -/

namespace MiniLisp

/-- A symbol or an integer. -/
structure Atom where
  /-- The text as written. -/
  lit : String
  /-- The text is that of a symbol or an integer. -/
  valid : isAtomLiteral lit = true
  deriving DecidableEq

namespace Atom

/-- The atom with a given text, if there is one. -/
def ofText? (s : String) : Option Atom :=
  if h : isAtomLiteral s = true then some ⟨s, h⟩ else none

/-- The empty list, which is also false. -/
def nil : Atom := ⟨"NIL", by decide⟩

/-- True. -/
def t : Atom := ⟨"T", by decide⟩

/-- The symbol that the quote mark stands for. -/
def quote : Atom := ⟨"QUOTE", by decide⟩

/-- The symbol in front of the value of an anonymous function. -/
def lambda : Atom := ⟨"LAMBDA", by decide⟩

instance : Inhabited Atom := ⟨nil⟩

/-- The atom of a truth value. -/
def ofBool (b : Bool) : Atom := if b then t else nil

/-- The atom of an integer in decimal. -/
def canonical (n : Int) : Atom where
  lit := String.ofList (Numeral.canonical n)
  valid := by
    simp [isAtomLiteral, isIntegerLiteral, String.toList_ofList, Numeral.isNumeral_canonical]

/-- The atom of an integer in decimal, if its numeral is short enough to be written. -/
def ofInt (n : Int) : Except Numeral.Overflow Atom :=
  let a := canonical n
  if Numeral.isTooLong a.lit.toList then .error .writing else .ok a

/-- Whether the atom is an integer. -/
def isInt (a : Atom) : Bool := isIntegerLiteral a.lit

/-- Whether the atom is a symbol. -/
def isSymbol (a : Atom) : Bool := !a.isInt

/-- Whether the atom is the empty list. -/
def isNil (a : Atom) : Bool := a.lit = "NIL"

/-- Whether the atom is true. -/
def isTrue (a : Atom) : Bool := a.lit = "T"

/-- Whether the atom stands for itself: an integer, `T` or `NIL`. -/
def isConstant (a : Atom) : Bool := a.isInt || a.isNil || a.isTrue

/-- The text that shows the atom: as written, less the plus in front of an integer. -/
def text (a : Atom) : String :=
  match a.lit.toList with
  | '+' :: ds => String.ofList ds
  | _ => a.lit

end Atom

end MiniLisp
