import MiniLisp.Text.Line

/-! # The word at a place

The word under the cursor reaches to both sides up to the next space, tab, parenthesis, quote mark
or line end. Lines and columns may be given from the end, as negative numbers. -/

namespace MiniLisp.Editor

/-- Why there is no answer at a place. -/
inductive PlaceError where
  /-- The line lies before the first one. -/
  | line
  /-- The column lies outside its line. -/
  | column
  deriving Repr, DecidableEq

/-- The text that reports an error. -/
def PlaceError.message : PlaceError → String
  | .line => "list index out of range"
  | .column => "string index out of range"

/-- Whether a character is part of a word. -/
def isInWord (c : Char) : Bool :=
  !(c = ' ' || c = '\t' || c = '(' || c = ')' || c = '\x27' || c = '\n' || c = '\r')

/-- The place in a list of `length` elements that an index means. A negative one counts from the
    end. -/
def fromStart (length : Nat) (i : Int) : Int := if i < 0 then length + i else i

/-- The element at an index. -/
def item? {α : Type} (xs : List α) (i : Int) : Option α :=
  let place := fromStart xs.length i
  if place < 0 then none else xs[place.toNat]?

/-- The elements between two indices. What lies outside the list is cut off. -/
def slice {α : Type} (xs : List α) (start stop : Int) : List α :=
  xs.extract (fromStart xs.length start).toNat (fromStart xs.length stop).toNat

/-- The character of a line at a column. -/
def charAt (line : List Char) (column : Int) : Except PlaceError Char :=
  match item? line column with
  | some c => .ok c
  | none => .error .column

/-- Where the word at a column begins: the column goes to the left for as long as the character
    before it is in the word. -/
def wordStart (line : List Char) (column : Int) : Except PlaceError Int :=
  if 0 < column then
    match charAt line (column - 1) with
    | .error e => .error e
    | .ok c => if isInWord c then wordStart line (column - 1) else .ok column
  else .ok column
termination_by column.toNat

/-- Where the word at a column ends: the column goes to the right for as long as its character is in
    the word. -/
def wordStop (line : List Char) (column : Int) : Except PlaceError Int :=
  if column < line.length then
    match charAt line column with
    | .error e => .error e
    | .ok c => if isInWord c then wordStop line (column + 1) else .ok column
  else .ok column
termination_by (line.length - column).toNat

/-- The word at a column of a line. -/
def wordInLine (line : List Char) (column : Int) : Except PlaceError (List Char) := do
  let start ← wordStart line column
  let stop ← wordStop line column
  pure (slice line start stop)

/-- A line by its number. There is none past the end. -/
def lineAt (lines : List (List Char)) (n : Int) : Except PlaceError (Option (List Char)) :=
  if lines.length ≤ n then .ok none
  else
    match item? lines n with
    | some line => .ok (some line)
    | none => .error .line

/-- The word at a place of a text, if there is one. -/
def wordAt (text : String) (line column : Int) : Except PlaceError (Option String) := do
  match ← lineAt (Text.splitLines text.toList) line with
  | none => pure none
  | some cs =>
    let word ← wordInLine cs column
    pure (if word.isEmpty then none else some (String.ofList word))

end MiniLisp.Editor
