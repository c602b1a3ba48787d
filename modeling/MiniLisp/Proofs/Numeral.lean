import Mathlib.Algebra.Group.Nat.Defs
import MiniLisp.Proofs.Atom
import MiniLisp.Sexp.Build

/-! # Numerals and numbers

A numeral of at most `digitLimit` digits denotes a number below the power of ten of that limit, and a
number below it is written within the limit, without leading zeros, and read again as itself. So
each number has one canonical numeral, although it can be written in many ways. -/

namespace MiniLisp

namespace Numeral

/-! ## Digits -/

theorem digitValue_lt {c : Char} (h : c.isDigit = true) : c.toNat - '0'.toNat < 10 := by
  simp only [Char.isDigit, ge_iff_le, Bool.and_eq_true, decide_eq_true_eq,
    UInt32.le_iff_toNat_le] at h
  have hle : c.toNat ≤ 57 := h.2
  have hzero : '0'.toNat = 48 := rfl
  omega

/-- Each digit that is read leaves the number below one more power of ten. -/
theorem ofDigitChars_lt {ds : List Char} (h : ∀ c ∈ ds, c.isDigit = true) (init : Nat) :
    Nat.ofDigitChars 10 ds init < 10 ^ ds.length * (init + 1) := by
  induction ds generalizing init with
  | nil => simp
  | cons d ds ih =>
    have hd := digitValue_lt (h d List.mem_cons_self)
    have hds := ih (fun c hc => h c (List.mem_cons_of_mem d hc)) (10 * init + (d.toNat - '0'.toNat))
    rw [Nat.ofDigitChars_cons]
    calc Nat.ofDigitChars 10 ds (10 * init + (d.toNat - '0'.toNat))
        < 10 ^ ds.length * (10 * init + (d.toNat - '0'.toNat) + 1) := hds
      _ ≤ 10 ^ ds.length * (10 * (init + 1)) := Nat.mul_le_mul_left _ (by omega)
      _ = 10 ^ (d :: ds).length * (init + 1) := by
        rw [List.length_cons, Nat.pow_succ, Nat.mul_assoc]

/-! ## Reading -/

theorem isTooLong_eq_false_iff {cs : List Char} :
    isTooLong cs = false ↔ (digits cs).length ≤ digitLimit := by
  simp [isTooLong]

/-- A numeral within the limit denotes a number below the power of ten of the limit. -/
theorem exists_read {cs : List Char} (hnumeral : isNumeral cs = true)
    (hlength : (digits cs).length ≤ digitLimit) :
    ∃ n, read cs = .ok n ∧ n.natAbs < 10 ^ digitLimit := by
  rw [isNumeral, Bool.and_eq_true, List.all_eq_true] at hnumeral
  have hlt : Nat.ofDigitChars 10 (digits cs) 0 < 10 ^ digitLimit := by
    have hvalue := ofDigitChars_lt hnumeral.2 0
    rw [Nat.zero_add, Nat.mul_one] at hvalue
    exact Nat.lt_of_lt_of_le hvalue (Nat.pow_le_pow_right (by decide) hlength)
  refine ⟨_, by rw [read, if_neg (by simp [isTooLong_eq_false_iff.2 hlength])], ?_⟩
  split
  · rwa [Int.natAbs_neg, Int.natAbs_natCast]
  · rwa [Int.natAbs_natCast]

theorem read_eq_error {cs : List Char} (hlength : digitLimit < (digits cs).length) :
    read cs = .error (.reading (digits cs).length) := by
  rw [read, if_pos (by simpa [isTooLong] using hlength)]

/-- A plus in front makes no difference. -/
theorem read_plus {ds : List Char} (h : ∀ c ∈ ds, c.isDigit = true) :
    read ('+' :: ds) = read ds := by
  have hdigits : digits ('+' :: ds) = digits ds := by rw [digits_of_isDigit h, digits]
  have hsign : isNegative ds = false := by
    rw [isNegative.eq_def]
    split
    · exact absurd (h '-' List.mem_cons_self) (by decide)
    · rfl
  have hplus : isNegative ('+' :: ds) = false := rfl
  simp only [read, isTooLong, hdigits, hsign, hplus]

/-! ## Writing -/

@[simp] theorem isNegative_canonical (n : Int) : isNegative (canonical n) = decide (n < 0) := by
  by_cases hn : n < 0
  · simp [canonical, hn, isNegative]
  · simp only [canonical, hn, if_false, decide_false]
    rw [isNegative.eq_def]
    split
    · next heq => exact absurd (isDigit_of_mem_toDigits (heq ▸ List.mem_cons_self)) (by decide)
    · rfl

/-- A number is written within the limit exactly if it lies below the power of ten of the limit. -/
theorem isTooLong_canonical (n : Int) :
    isTooLong (canonical n) = false ↔ n.natAbs < 10 ^ digitLimit := by
  rw [isTooLong_eq_false_iff, digits_canonical]
  exact Nat.length_toDigits_le_iff (by decide) (by decide)

theorem read_canonical {n : Int} (h : n.natAbs < 10 ^ digitLimit) : read (canonical n) = .ok n := by
  have hshort := (isTooLong_canonical n).2 h
  simp only [read, hshort, digits_canonical, Nat.ofDigitChars_ten_toDigits, isNegative_canonical,
    decide_eq_true_eq, Bool.false_eq_true, if_false]
  congr 1
  split <;> omega

theorem canonical_injective {m n : Int} (h : canonical m = canonical n) : m = n := by
  have hsign : (m < 0) = (n < 0) := by
    simpa using congrArg isNegative h
  have hdigits : Nat.toDigits 10 m.natAbs = Nat.toDigits 10 n.natAbs := by
    simpa using congrArg digits h
  have habs : m.natAbs = n.natAbs := by
    simpa [Nat.ofDigitChars_ten_toDigits] using congrArg (Nat.ofDigitChars 10 · 0) hdigits
  have hiff : m < 0 ↔ n < 0 := by rw [hsign]
  omega

end Numeral

/-! ## Atoms of numbers -/

namespace Atom

/-- The number of digits that an integer is written with, leading zeros included. -/
def digitCount (a : Atom) : Nat := (Numeral.digits a.lit.toList).length

theorem exists_value {a : Atom} (hint : a.isInt = true)
    (hcount : a.digitCount ≤ Numeral.digitLimit) :
    ∃ n, a.value = .ok n ∧ n.natAbs < 10 ^ Numeral.digitLimit := by
  obtain ⟨n, hread, hlt⟩ := Numeral.exists_read hint hcount
  exact ⟨n, by rw [value, if_pos hint, hread]; rfl, hlt⟩

theorem value_eq_error {a : Atom} (hint : a.isInt = true)
    (hcount : Numeral.digitLimit < a.digitCount) :
    a.value = .error (.overflow (.reading a.digitCount)) := by
  rw [value, if_pos hint, Numeral.read_eq_error hcount]
  rfl

/-- The number of an integer can be told from the text that shows it. -/
theorem value_eq_of_text_eq {a b : Atom} (ha : a.isInt = true) (hb : b.isInt = true)
    (htext : a.text = b.text) : a.value = b.value := by
  have hshown : ∀ {c : Atom}, c.isInt = true →
      Numeral.read c.lit.toList = Numeral.read c.text.toList := by
    intro c hc
    obtain ⟨ds, hne, hdigits, hplus | hminus | hplain⟩ := Numeral.isNumeral_cases hc
    · rw [text_of_plus hplus, hplus, String.toList_ofList, Numeral.read_plus hdigits]
    · rw [text_of_toList hminus (by decide)]
    · obtain ⟨d, ds, rfl⟩ := List.exists_cons_of_ne_nil hne
      have hd : d ≠ '+' := by
        rintro rfl
        exact absurd (hdigits '+' List.mem_cons_self) (by decide)
      rw [text_of_toList hplain hd]
  rw [value, value, if_pos ha, if_pos hb, hshown ha, hshown hb, htext]

/-! ## Canonical atoms -/

@[simp] theorem isInt_canonical (n : Int) : (canonical n).isInt = true := by
  simp [isInt, isIntegerLiteral, canonical, String.toList_ofList, Numeral.isNumeral_canonical]

theorem value_canonical {n : Int} (h : n.natAbs < 10 ^ Numeral.digitLimit) :
    (canonical n).value = .ok n := by
  rw [value, if_pos (isInt_canonical n)]
  simp only [canonical, String.toList_ofList, Numeral.read_canonical h]
  rfl

theorem text_canonical (n : Int) : (canonical n).text = (canonical n).lit := by
  obtain ⟨c, cs, hlist⟩ := List.exists_cons_of_ne_nil
    (show (canonical n).lit.toList ≠ [] by
      simp only [canonical, String.toList_ofList, Numeral.canonical]
      split <;> simp)
  refine text_of_toList hlist ?_
  rintro rfl
  simp only [canonical, String.toList_ofList, Numeral.canonical] at hlist
  split at hlist
  · cases hlist
  · exact absurd (Numeral.isDigit_of_mem_toDigits (hlist ▸ List.mem_cons_self)) (by decide)

theorem unsigned_canonical (n : Int) : (canonical n).unsigned = canonical n :=
  ext_lit (text_canonical n)

theorem lit_canonical_natCast (n : Nat) : (canonical n).lit = toString n := by
  have hnonneg : ¬ (n : Int) < 0 := by omega
  simp only [canonical, Numeral.canonical, hnonneg, if_false, Int.natAbs_natCast]
  rfl

/-- Different numbers are shown differently when they are written canonically. -/
theorem text_canonical_inj {m n : Int} : (canonical m).text = (canonical n).text ↔ m = n := by
  refine ⟨fun h => ?_, fun h => h ▸ rfl⟩
  rw [text_canonical, text_canonical] at h
  exact Numeral.canonical_injective (String.ofList_injective h)

/-- A number below the power of ten of the limit can be written. -/
theorem ofInteger_of_lt {n : Int} (h : n.natAbs < 10 ^ Numeral.digitLimit) :
    ofInteger n = .ok (canonical n) := by
  have hshort : Numeral.isTooLong (canonical n).lit.toList = false := by
    simpa [canonical, String.toList_ofList] using (Numeral.isTooLong_canonical n).2 h
  simp only [ofInteger, ofInt, hshort]
  rfl

theorem ofInteger_of_le {n : Int} (h : 10 ^ Numeral.digitLimit ≤ n.natAbs) :
    ofInteger n = .error (.overflow .writing) := by
  have hlong : Numeral.isTooLong (canonical n).lit.toList = true := by
    rw [← Bool.not_eq_false]
    simpa [canonical, String.toList_ofList] using
      mt (Numeral.isTooLong_canonical n).1 (Nat.not_lt.2 h)
  simp only [ofInteger, ofInt, hlong]
  rfl

end Atom

end MiniLisp
