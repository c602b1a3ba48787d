/-! # Decimal numerals

Integers are written in decimal, with an optional sign in front of a numeral that is read and a
minus in front of a negative number that is written. A numeral of more than `digitLimit` digits can
be held and shown but not computed with, and no computation may produce one. -/

namespace MiniLisp.Numeral

/-- The most digits of a number that is read from a numeral or written as one. -/
def digitLimit : Nat := 4300

/-- Why a number could not be read or written. -/
inductive Overflow where
  /-- The numeral to be read has too many digits. -/
  | reading (digits : Nat)
  /-- The numeral to be written would have too many digits. -/
  | writing
  deriving Repr, DecidableEq

/-- The text that reports an overflow. -/
def Overflow.message : Overflow → String
  | .reading digits =>
    s!"Exceeds the limit ({digitLimit} digits) for integer string conversion: " ++
      s!"value has {digits} digits; use sys.set_int_max_str_digits() to increase the limit"
  | .writing =>
    s!"Exceeds the limit ({digitLimit} digits) for integer string conversion; " ++
      "use sys.set_int_max_str_digits() to increase the limit"

/-- Whether a numeral has a minus in front. -/
def isNegative : List Char → Bool
  | '-' :: _ => true
  | _ => false

/-- A numeral without its sign. -/
def digits : List Char → List Char
  | '-' :: ds => ds
  | '+' :: ds => ds
  | ds => ds

/-- Whether a text is a numeral: an optional sign and one digit or more. -/
def isNumeral (cs : List Char) : Bool := !(digits cs).isEmpty && (digits cs).all Char.isDigit

/-- Whether a numeral has too many digits. The sign does not count as a digit and leading zeros
    do. -/
def isTooLong (cs : List Char) : Bool := digitLimit < (digits cs).length

/-- The number that a numeral denotes, if it is short enough. -/
def read (cs : List Char) : Except Overflow Int :=
  let ds := digits cs
  if isTooLong cs then .error (.reading ds.length)
  else
    let n := Nat.ofDigitChars 10 ds 0
    .ok (if isNegative cs then -(n : Int) else n)

/-- The numeral of a number without leading zeros, however long. -/
def canonical (n : Int) : List Char :=
  let ds := Nat.toDigits 10 n.natAbs
  if n < 0 then '-' :: ds else ds

theorem isDigit_of_mem_toDigits {n : Nat} {c : Char} (h : c ∈ Nat.toDigits 10 n) :
    c.isDigit = true :=
  Nat.isDigit_of_mem_toDigits (by decide) (by decide) h

theorem digits_toDigits (n : Nat) : digits (Nat.toDigits 10 n) = Nat.toDigits 10 n := by
  unfold digits
  split <;> rename_i h
  · exact absurd (isDigit_of_mem_toDigits (h ▸ List.mem_cons_self)) (by decide)
  · exact absurd (isDigit_of_mem_toDigits (h ▸ List.mem_cons_self)) (by decide)
  · rfl

@[simp] theorem digits_canonical (n : Int) : digits (canonical n) = Nat.toDigits 10 n.natAbs := by
  by_cases h : n < 0
  · simp [canonical, h, digits]
  · simp [canonical, h, digits_toDigits]

theorem isNumeral_canonical (n : Int) : isNumeral (canonical n) = true := by
  simp only [isNumeral, digits_canonical, Bool.and_eq_true, Bool.not_eq_true', List.all_eq_true]
  exact ⟨by simp, fun c hc => isDigit_of_mem_toDigits hc⟩

end MiniLisp.Numeral
