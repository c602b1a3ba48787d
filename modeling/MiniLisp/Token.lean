import MiniLisp.Text.Blank

/-! # Tokens

A program's text is a sequence of tokens with gaps between them. A gap is made of blanks and of
comments, which run from a semicolon to the end of the line. -/

namespace MiniLisp

/-- What a token is to the reader. -/
inductive Token.Kind where
  /-- An opening parenthesis. -/
  | lparen
  /-- A closing parenthesis. -/
  | rparen
  /-- A quote mark. -/
  | quote
  /-- A run of other characters, the text of an atom if it is well formed. -/
  | atom
  /-- Something that no program text contains. -/
  | unknown (name : String)
  deriving Repr, DecidableEq

/-- A piece of program text. -/
structure Token where
  kind : Token.Kind
  text : String
  deriving Repr, DecidableEq

namespace Token

/-- The kind of a token that is one character long whatever follows. -/
def delimiter? (c : Char) : Option Kind :=
  if c = '(' then some .lparen
  else if c = ')' then some .rparen
  else if c = '\x27' then some .quote
  else none

/-- Whether `c` may be part of an atom's text. -/
def isAtomChar (c : Char) : Bool :=
  !Text.isBlank c && c ≠ '(' && c ≠ ')' && c ≠ ';' && c ≠ '\x27'

/-- The tokens of a text. Blanks and comments are skipped, and an atom takes all characters up to
    the next blank, parenthesis, quote mark or semicolon. -/
def ofChars : List Char → List Token
  | [] => []
  | c :: cs =>
    if Text.isBlank c then ofChars cs
    else if c = ';' then ofChars (cs.dropWhile (· ≠ '\n'))
    else
      match delimiter? c with
      | some kind => ⟨kind, c.toString⟩ :: ofChars cs
      | none => ⟨.atom, String.ofList (c :: cs.takeWhile isAtomChar)⟩ ::
          ofChars (cs.dropWhile isAtomChar)
termination_by cs => cs.length
decreasing_by
  · exact Nat.lt_succ_self _
  · exact Text.length_dropWhile_lt
  · exact Nat.lt_succ_self _
  · exact Text.length_dropWhile_lt

/-- The tokens of a text. -/
def lex (source : String) : List Token := ofChars source.toList

end Token

end MiniLisp
