import MiniLisp.Text.Quoted

/-! # Foreign values

Values from outside the language that may be offered where an expression is expected. None of them
is accepted, and the complaint shows the value. -/

namespace MiniLisp

/-- A value from outside the language. -/
inductive Foreign where
  | null
  | bool (b : Bool)
  | int (n : Int)
  | text (s : String)
  | list (vs : List Foreign)
  deriving Inhabited

namespace Foreign

mutual

/-- The value with its texts in quotes. -/
def quoted : Foreign → String
  | .null => "None"
  | .bool b => if b then "True" else "False"
  | .int n => toString n
  | .text s => Text.quoted s
  | .list vs => "[" ++ ", ".intercalate (quotedAll vs) ++ "]"

/-- The elements of a list with their texts in quotes. -/
def quotedAll : List Foreign → List String
  | [] => []
  | v :: vs => v.quoted :: quotedAll vs

end

/-- The value, a text without quotes. -/
def plain : Foreign → String
  | .text s => s
  | v => v.quoted

end Foreign

end MiniLisp
