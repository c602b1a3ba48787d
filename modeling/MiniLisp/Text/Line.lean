/-! # Lines and positions

Two ways to count lines. `splitLines` ends a line at every line end of Unicode; `position` counts
newline characters only, which is how the places of definitions are recorded. -/

namespace MiniLisp.Text

/-- Whether a line ends after `c`. -/
def isLineEnd (c : Char) : Bool :=
  c = '\n' || c = '\r' || c = '\x0b' || c = '\x0c' || c = '\x1c' || c = '\x1d' || c = '\x1e' ||
    c = '\u0085' || c = '\u2028' || c = '\u2029'

/-- The lines of a text, each with its line end; a carriage return and the newline after it are one
    line end. -/
def splitLines : List Char → List (List Char)
  | [] => []
  | '\r' :: '\n' :: rest => ['\r', '\n'] :: splitLines rest
  | c :: rest =>
    if isLineEnd c then [c] :: splitLines rest
    else
      match splitLines rest with
      | [] => [[c]]
      | line :: lines => (c :: line) :: lines

/-- A place in a text: the newlines before it, and the characters between the last of them and
    it. -/
structure Position where
  line : Nat
  column : Nat
  deriving Repr, DecidableEq, Inhabited

/-- The number of characters up to and including the last newline. -/
def lineStart (before : List Char) : Nat :=
  before.length - (before.reverse.takeWhile (· ≠ '\n')).length

/-- The place of an offset. Past the end of the text the column goes on counting. -/
def position (text : List Char) (offset : Nat) : Position :=
  let before := text.take offset
  ⟨before.count '\n', offset - lineStart before⟩

/-- The line and column of a signed offset. A negative offset counts from the end of the text to
    find its line, and is used as it is for the column. -/
def signedPosition (text : List Char) : Int → Nat × Int
  | .ofNat n =>
    let p := position text n
    (p.line, p.column)
  | .negSucc n =>
    let before := text.take (text.length - (n + 1))
    (before.count '\n', Int.negSucc n - lineStart before)

/-- Line ends as a program reads them from a file: a carriage return, alone or with the newline
    after it, becomes a newline. -/
def normalizeNewlines : List Char → List Char
  | [] => []
  | '\r' :: '\n' :: rest => '\n' :: normalizeNewlines rest
  | c :: rest => (if c = '\r' then '\n' else c) :: normalizeNewlines rest

end MiniLisp.Text
