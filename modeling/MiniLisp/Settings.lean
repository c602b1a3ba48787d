import MiniLisp.Numeral
import MiniLisp.Text.Blank
import MiniLisp.Text.Case.Lower
import MiniLisp.Text.Digit

/-! # Settings

Settings come from environment variables. A variable that is not set, or that cannot be understood,
leaves the default. -/

namespace MiniLisp.Settings

/-- The texts that switch a flag on, in lower case. -/
def trueTexts : List String := ["1", "true", "yes", "on"]

/-- The value of a flag. A text of blanks counts as not set, and every other text that does not
    switch the flag on switches it off. -/
def flag (text : Option String) (default : Bool) : Bool :=
  match text with
  | none => default
  | some s =>
    let word := Text.strip s.toList
    if word.isEmpty then default else trueTexts.contains (Text.lower (String.ofList word))

/-- The values of the digits of a numeral without sign. The digits may be of any script, and single
    underscores may stand between them. -/
def digitValues? : List Char → Option (List Nat)
  | [] => none
  | [c] => (Text.digitValue? c).map fun d => [d]
  | c :: '_' :: cs => (Text.digitValue? c).bind fun d => (digitValues? cs).map (d :: ·)
  | c :: cs => (Text.digitValue? c).bind fun d => (digitValues? cs).map (d :: ·)

/-- The number that a text denotes, if it has no more digits than a numeral may have. -/
def integer? (cs : List Char) : Option Int := do
  let ds ← digitValues? (Numeral.digits cs)
  if Numeral.digitLimit < ds.length then none
  else
    let n : Nat := ds.foldl (fun n d => 10 * n + d) 0
    some (if Numeral.isNegative cs then -(n : Int) else n)

/-- The value of a number, with blanks around it. -/
def integer (text : Option String) (default : Int) : Int :=
  match text with
  | none => default
  | some s => (integer? (Text.strip s.toList)).getD default

/-- The variable that switches debug mode on. -/
def debugVariable : String := "LISPRETER_DEBUG"

/-- Whether debug mode is on if the command line does not say so. -/
def debugDefault (text : Option String) : Bool := flag text false

/-- The depth to which programs may recurse, at least a thousand. -/
def recursionLimit (text : Option String) : Int := max (integer text 10000) 1000

end MiniLisp.Settings
