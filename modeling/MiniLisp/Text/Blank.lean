import MiniLisp.Text.Ranges

/-! # Blanks

The characters that separate words: the spaces and line ends of Unicode, and the four information
separators of ASCII. -/

namespace MiniLisp.Text

/-- The code points of blanks. -/
def blankRanges : Ranges :=
  [(0x9, 0xD), (0x1C, 0x20), (0x85, 0x85), (0xA0, 0xA0), (0x1680, 0x1680), (0x2000, 0x200A),
   (0x2028, 0x2029), (0x202F, 0x202F), (0x205F, 0x205F), (0x3000, 0x3000)]

/-- Whether `c` separates words. -/
def isBlank (c : Char) : Bool := blankRanges.contains c.toNat

/-- The text without the blanks at its two ends. -/
def strip (cs : List Char) : List Char :=
  ((cs.dropWhile isBlank).reverse.dropWhile isBlank).reverse

theorem blankRanges_ascending : Ranges.AscendingFrom 0 blankRanges := by decide

/-- What is left after the first character and a run that follows it is shorter than the whole. -/
theorem length_dropWhile_lt {p : Char → Bool} {c : Char} {cs : List Char} :
    (cs.dropWhile p).length < (c :: cs).length :=
  Nat.lt_succ_of_le (List.dropWhile_suffix p).length_le

end MiniLisp.Text
