import MiniLisp.Numeral
import MiniLisp.Text.Case.Lower
import MiniLisp.Text.Digit
import MiniLisp.Text.WordChar

/-! # Literals

What the text of an atom may be: a symbol or a numeral. -/

namespace MiniLisp

/-- A symbol is one word character or more, the first of which is no decimal digit of any
    script. -/
def isSymbolLiteral (s : String) : Bool :=
  match s.toList with
  | [] => false
  | c :: cs => Text.isWordChar c && !Text.isDecimalDigit c && cs.all Text.isWordChar

/-- An integer is an optionally signed run of the digits 0 to 9. -/
def isIntegerLiteral (s : String) : Bool := Numeral.isNumeral s.toList

/-- The text of an atom. -/
def isAtomLiteral (s : String) : Bool := isSymbolLiteral s || isIntegerLiteral s

/-- The names that stand for an anonymous function, in any case. -/
def isLambdaName (s : String) : Bool :=
  let name := Text.lower s
  name = "lambda" || name = "λ"

end MiniLisp
