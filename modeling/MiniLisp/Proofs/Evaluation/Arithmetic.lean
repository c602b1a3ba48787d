import MiniLisp.Proofs.Evaluation.Rules
import MiniLisp.Proofs.Numeral

/-! # Arithmetic

What the primitives on integers compute, through the numerals that integers are written with. Sums,
differences and products are exact as long as they can be written; quotients and remainders always
can, and fit together. Order compares numbers, and equality compares texts, so two numerals of one
number may be neither equal nor in order. -/

namespace MiniLisp

/-! ## Integer arguments -/

theorem Atom.isInt_of_value {a : Atom} {x : Int} (h : a.value = .ok x) : a.isInt = true := by
  rw [value] at h
  split at h
  · assumption
  · cases h

theorem Atom.isConstant_of_isInt {a : Atom} (h : a.isInt = true) : a.isConstant = true := by
  simp [isConstant, h]

theorem Environment.gives_integer {env : Environment} {a : Atom} (h : a.isInt = true) :
    env.Gives (.atom a) (.ok (.atom a)) :=
  gives_constant (Atom.isConstant_of_isInt h)

theorem Sexp.render_atom (a : Atom) : (Sexp.atom a).render = a.text := by
  rw [render, chars, String.ofList_toList]

namespace Primitive

theorem integerArgument_atom (p : Primitive) {a : Atom} (h : a.isInt = true) :
    p.integerArgument (.atom a) = a.value := if_pos h

section

variable (p : Primitive) {a b : Atom} {x y : Int}

theorem integerArgument_of_value (h : a.value = .ok x) : p.integerArgument (.atom a) = .ok x := by
  rw [p.integerArgument_atom (Atom.isInt_of_value h), h]

theorem onIntegers_of_value (ha : a.value = .ok x) (hb : b.value = .ok y)
    (f : Int → Int → Except Error Sexp) : p.onIntegers (.atom a) (.atom b) f = f x y := by
  rw [onIntegers, p.integerArgument_of_value ha, p.integerArgument_of_value hb]
  rfl

theorem onDivision_of_value (ha : a.value = .ok x) (hb : b.value = .ok y) (hy : y ≠ 0)
    (f : Int → Int → Int) :
    p.onDivision (.atom a) (.atom b) f = integerResult (f x y) := by
  rw [onDivision, divisorArgument, p.integerArgument_of_value ha, p.integerArgument_of_value hb]
  simp only [bind, Except.bind, hy, if_false]

theorem onDivision_of_zero (ha : a.value = .ok x) (hb : b.value = .ok 0) (f : Int → Int → Int) :
    p.onDivision (.atom a) (.atom b) f = .error (.divisionByZero p.name) := by
  rw [onDivision, divisorArgument, p.integerArgument_of_value ha, p.integerArgument_of_value hb]
  rfl

end

theorem integerResult_of_lt {n : Int} (h : n.natAbs < 10 ^ Numeral.digitLimit) :
    integerResult n = .ok (.atom (.canonical n)) := by
  rw [integerResult, Atom.ofInteger_of_lt h]
  rfl

theorem integerResult_of_le {n : Int} (h : 10 ^ Numeral.digitLimit ≤ n.natAbs) :
    integerResult n = .error (.overflow .writing) := by
  rw [integerResult, Atom.ofInteger_of_le h]
  rfl

/-- A computation with two integers gives its result, whichever forms give the integers. -/
theorem gives_operation {p : Primitive} {f : Int → Int → Int} (hp : p.arity? = some 2)
    (happly : ∀ u v, p.apply [u, v] = p.onIntegers u v fun x y => integerResult (f x y))
    {env : Environment} (hname : env.functions.get? p.name = none) {u v : Sexp} {a b : Atom}
    {x y : Int} (hu : env.Gives u (.ok (.atom a))) (ha : a.value = .ok x)
    (hv : env.Gives v (.ok (.atom b))) (hb : b.value = .ok y) :
    env.Gives (p.form [u, v]) (integerResult (f x y)) := by
  have hgives := Environment.gives_primitive_two hp hname hu hv
  rwa [happly, onIntegers_of_value p ha hb] at hgives

/-! ## Answers -/

/-- At the atoms `a` and `b` the primitive ends with `r`: when it is invoked on any machine, and when
    the form `(p a b)` is evaluated in an environment that has no function of the same name. Nothing is
    printed, and the environment stays as it is. -/
structure Answers (p : Primitive) (a b : Atom) (r : Except Error Sexp) : Prop where
  invoked : ∀ m, ∃ m', Eval.invoke p (some (.list (.atom a) [.atom b])) m = some (r, m') ∧
    m'.env = m.env ∧ m'.output = m.output
  evaluated : ∀ env : Environment, env.functions.get? p.name = none →
    env.Gives (p.form [.atom a, .atom b]) r

theorem answers_apply {p : Primitive} (hp : p.arity? = some 2) {a b : Atom} (ha : a.isInt = true)
    (hb : b.isInt = true) : p.Answers a b (p.apply [.atom a, .atom b]) where
  invoked m := by
    have hquiet : p ≠ .print := by
      rintro rfl
      cases hp
    exact ⟨_, invoke_run hquiet [.atom a, .atom b] (by simp [accepts, hp]) m, rfl, rfl⟩
  evaluated env hname :=
    Environment.gives_primitive_two hp hname (Environment.gives_integer ha)
      (Environment.gives_integer hb)

/-- A primitive answers in one way. -/
theorem Answers.unique {p : Primitive} {a b : Atom} {r r' : Except Error Sexp}
    (h : p.Answers a b r) (h' : p.Answers a b r') : r = r' := by
  obtain ⟨m, hrun, -, -⟩ := h.invoked {}
  obtain ⟨m', hrun', -, -⟩ := h'.invoked {}
  rw [hrun] at hrun'
  cases hrun'
  rfl

/-- The primitive computes the number `n` from `a` and `b`: it answers with the canonical numeral of
    `n` if this has at most `digitLimit` digits, and else with an overflow. -/
structure Computes (p : Primitive) (a b : Atom) (n : Int) : Prop where
  fits : n.natAbs < 10 ^ Numeral.digitLimit → p.Answers a b (.ok (.atom (.canonical n)))
  exceeds : 10 ^ Numeral.digitLimit ≤ n.natAbs → p.Answers a b (.error (.overflow .writing))

theorem computes_of_apply {p : Primitive} (hp : p.arity? = some 2) {a b : Atom} {n : Int}
    (ha : a.isInt = true) (hb : b.isInt = true)
    (happly : p.apply [.atom a, .atom b] = integerResult n) : p.Computes a b n := by
  have hanswers := answers_apply hp ha hb
  rw [happly] at hanswers
  exact ⟨fun h => integerResult_of_lt h ▸ hanswers, fun h => integerResult_of_le h ▸ hanswers⟩

/-! ## Overflow of arguments -/

/-- The primitives that compute a number from two. -/
def arithmetic : List Primitive := [.plus, .minus, .times, .quotient, .remainder]

/-- Both arguments are read before anything is computed. -/
theorem apply_of_error {p : Primitive} (hp : p ∈ arithmetic) {a b : Atom} (ha : a.isInt = true)
    (hb : b.isInt = true) {e : Error}
    (h : a.value = .error e ∨ ∃ x, a.value = .ok x ∧ b.value = .error e) :
    p.apply [.atom a, .atom b] = .error e := by
  have hintegers : ∀ q f, onIntegers q (.atom a) (.atom b) f = .error e := by
    intro q f
    rw [onIntegers, q.integerArgument_atom ha, q.integerArgument_atom hb]
    obtain h | ⟨x, h, h'⟩ := h
    · rw [h]; rfl
    · rw [h, h']; rfl
  have hdivision : ∀ q f, onDivision q (.atom a) (.atom b) f = .error e := by
    intro q f
    rw [onDivision, divisorArgument, q.integerArgument_atom ha, q.integerArgument_atom hb]
    obtain h | ⟨x, h, h'⟩ := h
    · rw [h]; rfl
    · rw [h, h']; rfl
  simp only [arithmetic, List.mem_cons, List.not_mem_nil, or_false] at hp
  rcases hp with rfl | rfl | rfl | rfl | rfl
  · exact hintegers _ _
  · exact hintegers _ _
  · exact hintegers _ _
  · exact hdivision _ _
  · exact hdivision _ _

theorem answers_overflow {p : Primitive} (hp : p ∈ arithmetic) {a b : Atom} (ha : a.isInt = true)
    (hb : b.isInt = true)
    (hcount : Numeral.digitLimit < a.digitCount ∨ Numeral.digitLimit < b.digitCount) :
    ∃ digits, p.Answers a b (.error (.overflow (.reading digits))) := by
  have harity : p.arity? = some 2 := by
    revert p
    decide
  have hanswers := answers_apply harity ha hb
  rcases Nat.lt_or_ge Numeral.digitLimit a.digitCount with hlong | hshort
  · refine ⟨a.digitCount, ?_⟩
    rw [apply_of_error hp ha hb (Or.inl (Atom.value_eq_error ha hlong))] at hanswers
    exact hanswers
  · obtain ⟨x, hx, -⟩ := Atom.exists_value ha hshort
    have hlong := hcount.resolve_left (Nat.not_lt.2 hshort)
    refine ⟨b.digitCount, ?_⟩
    rw [apply_of_error hp ha hb (Or.inr ⟨x, hx, Atom.value_eq_error hb hlong⟩)] at hanswers
    exact hanswers

/-! ## Quotients and remainders -/

/-- A remainder other than zero has the sign of the dividend. -/
theorem sign_tmod (x y : Int) : x.tmod y = 0 ∨ (x.tmod y).sign = x.sign := by
  by_cases hx : 0 ≤ x
  · have hnonneg : 0 ≤ x.tmod y := Int.tmod_nonneg y hx
    rcases Int.lt_or_eq_of_le hnonneg with hpos | hzero
    · have hxpos : 0 < x := by
        rcases Int.lt_or_eq_of_le hx with hxpos | rfl
        · exact hxpos
        · simp at hpos
      exact Or.inr (by rw [Int.sign_eq_one_of_pos hpos, Int.sign_eq_one_of_pos hxpos])
    · exact Or.inl hzero.symm
  · have hnonneg : 0 ≤ (-x).tmod y := Int.tmod_nonneg y (by omega)
    rw [Int.neg_tmod] at hnonneg
    by_cases hzero : x.tmod y = 0
    · exact Or.inl hzero
    · exact Or.inr (by
        rw [Int.sign_eq_neg_one_of_neg (by omega), Int.sign_eq_neg_one_of_neg (by omega)])

section

variable {a b : Atom} {x y : Int}

theorem natAbs_tdiv_lt (h : x.natAbs < 10 ^ Numeral.digitLimit) :
    (x.tdiv y).natAbs < 10 ^ Numeral.digitLimit :=
  Nat.lt_of_le_of_lt (Int.natAbs_tdiv_le_natAbs x y) h

theorem natAbs_tmod_lt (h : x.natAbs < 10 ^ Numeral.digitLimit) :
    (x.tmod y).natAbs < 10 ^ Numeral.digitLimit := by
  rw [Int.natAbs_tmod]
  exact Nat.lt_of_le_of_lt (Nat.mod_le _ _) h

/-- The part of the dividend that the quotient accounts for is no longer than the dividend. -/
theorem natAbs_tdiv_mul_lt (h : x.natAbs < 10 ^ Numeral.digitLimit) :
    (x.tdiv y * y).natAbs < 10 ^ Numeral.digitLimit := by
  rw [Int.natAbs_mul, Int.natAbs_tdiv]
  exact Nat.lt_of_le_of_lt (Nat.div_mul_le_self _ _) h

theorem apply_quotient (ha : a.value = .ok x) (hb : b.value = .ok y) (hy : y ≠ 0)
    (hx : x.natAbs < 10 ^ Numeral.digitLimit) :
    apply .quotient [.atom a, .atom b] = .ok (.atom (.canonical (x.tdiv y))) := by
  rw [apply, onDivision_of_value .quotient ha hb hy, signedQuotient_eq_tdiv,
    integerResult_of_lt (natAbs_tdiv_lt hx)]

theorem apply_remainder (ha : a.value = .ok x) (hb : b.value = .ok y) (hy : y ≠ 0)
    (hx : x.natAbs < 10 ^ Numeral.digitLimit) :
    apply .remainder [.atom a, .atom b] = .ok (.atom (.canonical (x.tmod y))) := by
  rw [apply, onDivision_of_value .remainder ha hb hy, signedRemainder_eq_tmod,
    integerResult_of_lt (natAbs_tmod_lt hx)]

/-- The form `(PLUS (TIMES (QUOTIENT a b) b) (REMAINDER a b))`. -/
def recomposed (a b : Atom) : Sexp :=
  plus.form [times.form [quotient.form [.atom a, .atom b], .atom b],
    remainder.form [.atom a, .atom b]]

/-- Quotient and remainder give the dividend back. -/
theorem gives_recomposed (ha : a.value = .ok x) (hb : b.value = .ok y) (hy : y ≠ 0)
    (hx : x.natAbs < 10 ^ Numeral.digitLimit) {env : Environment}
    (hnames : ∀ p ∈ arithmetic, env.functions.get? p.name = none) :
    env.Gives (recomposed a b) (.ok (.atom (.canonical x))) := by
  have hgives : env.Gives (.atom a) (.ok (.atom a)) :=
    Environment.gives_integer (Atom.isInt_of_value ha)
  have hgives' : env.Gives (.atom b) (.ok (.atom b)) :=
    Environment.gives_integer (Atom.isInt_of_value hb)
  have hquotient := Environment.gives_primitive_two rfl (hnames .quotient (by decide)) hgives hgives'
  rw [apply_quotient ha hb hy hx] at hquotient
  have hremainder := Environment.gives_primitive_two rfl (hnames .remainder (by decide)) hgives
    hgives'
  rw [apply_remainder ha hb hy hx] at hremainder
  have htimes := gives_operation (p := .times) rfl (fun _ _ => rfl) (hnames .times (by decide))
    hquotient (Atom.value_canonical (natAbs_tdiv_lt hx)) hgives' hb
  rw [integerResult_of_lt (natAbs_tdiv_mul_lt hx)] at htimes
  have hplus := gives_operation (p := .plus) rfl (fun _ _ => rfl) (hnames .plus (by decide))
    htimes (Atom.value_canonical (natAbs_tdiv_mul_lt hx)) hremainder
    (Atom.value_canonical (natAbs_tmod_lt hx))
  rw [Int.tdiv_mul_add_tmod, integerResult_of_lt hx] at hplus
  exact hplus

end

end Primitive

open Primitive in
/-- For all integers `a` and `b` of at most `digitLimit` digits: sums, differences and products are
    exact, and overflow exactly if they have more digits. If the number of `b` is not zero, there are a
    quotient and a remainder, which is smaller than `b` and is zero or has the sign of `a`, and
    together they give the number of `a` back, also when a program computes this. If it is zero, both
    fail for that. An integer of more digits is refused by all five. -/
theorem arithmetic_is_exact {a b : Atom} (ha : a.isInt = true) (hb : b.isInt = true) :
    (a.digitCount ≤ Numeral.digitLimit → b.digitCount ≤ Numeral.digitLimit →
      ∃ x y : Int, a.value = .ok x ∧ b.value = .ok y ∧
        plus.Computes a b (x + y) ∧ minus.Computes a b (x - y) ∧ times.Computes a b (x * y) ∧
        (y ≠ 0 → ∃ q r : Int,
          quotient.Answers a b (.ok (.atom (.canonical q))) ∧
          remainder.Answers a b (.ok (.atom (.canonical r))) ∧
          x = q * y + r ∧ r.natAbs < y.natAbs ∧ (r = 0 ∨ r.sign = x.sign) ∧
          ∀ env : Environment, (∀ p ∈ arithmetic, env.functions.get? p.name = none) →
            env.Gives (recomposed a b) (.ok (.atom (.canonical x)))) ∧
        (y = 0 → quotient.Answers a b (.error (.divisionByZero "QUOTIENT")) ∧
          remainder.Answers a b (.error (.divisionByZero "REMAINDER")))) ∧
    (Numeral.digitLimit < a.digitCount ∨ Numeral.digitLimit < b.digitCount →
      ∀ p ∈ arithmetic, ∃ digits, p.Answers a b (.error (.overflow (.reading digits)))) := by
  refine ⟨?_, fun hcount p hp => answers_overflow hp ha hb hcount⟩
  intro hacount hbcount
  obtain ⟨x, hx, hlt⟩ := Atom.exists_value ha hacount
  obtain ⟨y, hy, -⟩ := Atom.exists_value hb hbcount
  have hquotient := answers_apply (p := .quotient) rfl ha hb
  have hremainder := answers_apply (p := .remainder) rfl ha hb
  refine ⟨x, y, hx, hy, ?_, ?_, ?_, fun hne => ?_, fun hzero => ?_⟩
  · exact computes_of_apply rfl ha hb (onIntegers_of_value .plus hx hy _)
  · exact computes_of_apply rfl ha hb (onIntegers_of_value .minus hx hy _)
  · exact computes_of_apply rfl ha hb (onIntegers_of_value .times hx hy _)
  · rw [apply_quotient hx hy hne hlt] at hquotient
    rw [apply_remainder hx hy hne hlt] at hremainder
    have hlower : (x.tmod y).natAbs < y.natAbs := by
      rw [Int.natAbs_tmod]
      exact Nat.mod_lt _ (Int.natAbs_pos.2 hne)
    exact ⟨_, _, hquotient, hremainder, (Int.tdiv_mul_add_tmod x y).symm, hlower, sign_tmod x y,
      fun env hnames => gives_recomposed hx hy hne hlt hnames⟩
  · subst hzero
    rw [apply, onDivision_of_zero .quotient hx hy] at hquotient
    rw [apply, onDivision_of_zero .remainder hx hy] at hremainder
    exact ⟨hquotient, hremainder⟩

/-- The number zero can be written with any number of digits. -/
theorem Atom.exists_zeros (n : Nat) :
    ∃ zeros : Atom, zeros.lit = String.ofList (List.replicate (n + 1) '0') ∧
      zeros.isInt = true ∧ zeros.digitCount = n + 1 := by
  have hdigits : ∀ c ∈ List.replicate (n + 1) '0', c.isDigit = true := by
    intro c hc
    rw [List.eq_of_mem_replicate hc]
    decide
  have hint : isIntegerLiteral (String.ofList (List.replicate (n + 1) '0')) = true := by
    rw [isIntegerLiteral, String.toList_ofList]
    exact Numeral.isNumeral_of_isDigit (by simp) hdigits
  have hatom : isAtomLiteral (String.ofList (List.replicate (n + 1) '0')) = true := by
    rw [isAtomLiteral, hint, Bool.or_true]
  refine ⟨⟨_, hatom⟩, rfl, hint, ?_⟩
  rw [digitCount, String.toList_ofList, Numeral.digits_of_isDigit hdigits, List.length_replicate]

open Primitive in
/-- `-007` divided by `+2` gives `-3` and the remainder `-1`, and these give `-7` again. Zero that is
    written with too many digits is refused as a numeral and not as a divisor. -/
theorem arithmetic_is_exact_signed :
    let a : Atom := ⟨"-007", by decide⟩
    let b : Atom := ⟨"+2", by decide⟩
    (∃ q r : Int, quotient.Answers a b (.ok (.atom (.canonical q))) ∧
      remainder.Answers a b (.ok (.atom (.canonical r))) ∧ q = -3 ∧ r = -1 ∧
      ({} : Environment).Gives (recomposed a b) (.ok (.atom (.canonical (-7))))) ∧
    ∃ zeros : Atom, zeros.lit = String.ofList (List.replicate (Numeral.digitLimit + 1) '0') ∧
      ∃ digits, quotient.Answers a zeros (.error (.overflow (.reading digits))) := by
  intro a b
  have ha : a.isInt = true := by decide
  have hb : b.isInt = true := by decide
  refine ⟨?_, ?_⟩
  · obtain ⟨x, y, hx, hy, -, -, -, hdivision, -⟩ :=
      (arithmetic_is_exact ha hb).1 (by decide) (by decide)
    have hvalue : a.value = .ok (-7) :=
      (rfl : (Atom.mk "-007" (by decide)).value = .ok (-7))
    have hvalue' : b.value = .ok 2 := (rfl : (Atom.mk "+2" (by decide)).value = .ok 2)
    rw [hvalue] at hx
    rw [hvalue'] at hy
    cases hx
    cases hy
    obtain ⟨q, r, hq, hr, hsum, hlower, hsign, hgives⟩ := hdivision (by decide)
    have hr' : r = -1 := by
      rcases hsign with rfl | hsign
      · omega
      · have hneg : r < 0 := Int.sign_eq_neg_one_iff_neg.1 hsign
        omega
    exact ⟨q, r, hq, hr, by omega, hr', hgives {} fun _ _ => rfl⟩
  · obtain ⟨zeros, hlit, hint, hcount⟩ := Atom.exists_zeros Numeral.digitLimit
    have hlong : Numeral.digitLimit < zeros.digitCount := by
      rw [hcount]
      exact Nat.lt_succ_self _
    exact ⟨zeros, hlit, (arithmetic_is_exact ha hint).2 (Or.inr hlong) .quotient (by decide)⟩

/-! ## Comparisons -/

namespace Primitive

variable {a b : Atom} {x y : Int}

theorem apply_eq_atoms (a b : Atom) :
    apply .eq [.atom a, .atom b] = .ok (.atom (.ofBool (decide (a.text = b.text)))) := by
  have hbeq : (Sexp.atom a == Sexp.atom b) = decide (a.text = b.text) := by
    show ((Sexp.atom a).render == (Sexp.atom b).render) = _
    rw [Sexp.render_atom, Sexp.render_atom]
    rfl
  rw [apply, hbeq]
  rfl

/-- Canonical numerals are equal exactly if their numbers are. -/
theorem apply_eq_canonical (x y : Int) :
    apply .eq [.atom (.canonical x), .atom (.canonical y)] =
      .ok (.atom (.ofBool (decide (x = y)))) := by
  rw [apply_eq_atoms, decide_eq_decide.2 Atom.text_canonical_inj]

theorem apply_less (ha : a.value = .ok x) (hb : b.value = .ok y) :
    apply .less [.atom a, .atom b] = .ok (.atom (.ofBool (decide (x < y)))) :=
  onIntegers_of_value .less ha hb _

theorem apply_greater (ha : a.value = .ok x) (hb : b.value = .ok y) :
    apply .greater [.atom a, .atom b] = .ok (.atom (.ofBool (decide (y < x)))) :=
  onIntegers_of_value .greater ha hb _

/-- Texts that are equal denote equal numbers, so of the three comparisons one holds at most, and none
    exactly if two texts denote one number. -/
theorem count_comparisons (ha : a.value = .ok x) (hb : b.value = .ok y) :
    [decide (a.text = b.text), decide (x < y), decide (y < x)].count true =
      if x = y ∧ a.text ≠ b.text then 0 else 1 := by
  have htext : a.text = b.text → x = y := by
    intro h
    have hvalue := Atom.value_eq_of_text_eq (Atom.isInt_of_value ha) (Atom.isInt_of_value hb) h
    rw [ha, hb] at hvalue
    cases hvalue
    rfl
  rcases Int.lt_trichotomy x y with hlt | rfl | hgt
  · have hne : a.text ≠ b.text := fun h => Int.ne_of_lt hlt (htext h)
    simp [hlt, hne, Int.ne_of_lt hlt, Int.lt_asymm hlt]
  · by_cases h : a.text = b.text <;> simp [h]
  · have hne : a.text ≠ b.text := fun h => Int.ne_of_gt hgt (htext h)
    simp [hgt, hne, Int.ne_of_gt hgt, Int.lt_asymm hgt]

end Primitive

open Primitive in
/-- For all integers `a` and `b` of at most `digitLimit` digits, each of `(EQ a b)`, `(LESS a b)` and
    `(GREATER a b)` is a truth value. Exactly one of them is true, unless `a` and `b` are different
    texts of the same number, where none is. So exactly one is true of canonical numerals. -/
theorem comparisons_exclude_each_other {a b : Atom} (ha : a.isInt = true) (hb : b.isInt = true)
    (hacount : a.digitCount ≤ Numeral.digitLimit) (hbcount : b.digitCount ≤ Numeral.digitLimit) :
    ∃ (x y : Int) (isEq isLess isGreater : Bool), a.value = .ok x ∧ b.value = .ok y ∧
      eq.Answers a b (.ok (.atom (.ofBool isEq))) ∧
      less.Answers a b (.ok (.atom (.ofBool isLess))) ∧
      greater.Answers a b (.ok (.atom (.ofBool isGreater))) ∧
      (¬ (x = y ∧ a.text ≠ b.text) → [isEq, isLess, isGreater].count true = 1) ∧
      (x = y ∧ a.text ≠ b.text → [isEq, isLess, isGreater].count true = 0) ∧
      (a = .canonical x → b = .canonical y → [isEq, isLess, isGreater].count true = 1) := by
  obtain ⟨x, hx, -⟩ := Atom.exists_value ha hacount
  obtain ⟨y, hy, -⟩ := Atom.exists_value hb hbcount
  have heq := answers_apply (p := .eq) rfl ha hb
  have hless := answers_apply (p := .less) rfl ha hb
  have hgreater := answers_apply (p := .greater) rfl ha hb
  rw [apply_eq_atoms] at heq
  rw [apply_less hx hy] at hless
  rw [apply_greater hx hy] at hgreater
  have hcount := count_comparisons hx hy
  refine ⟨x, y, _, _, _, hx, hy, heq, hless, hgreater, fun h => ?_, fun h => ?_, ?_⟩
  · rw [hcount, if_neg h]
  · rw [hcount, if_pos h]
  · intro hcanonical hcanonical'
    have hsame : ¬ (x = y ∧ a.text ≠ b.text) := by
      rintro ⟨rfl, hne⟩
      exact hne (by rw [hcanonical, hcanonical'])
    rw [hcount, if_neg hsame]

open Primitive in
/-- Of `+7` and `7`, which are shown as one text, exactly one comparison is true. -/
theorem comparisons_exclude_each_other_signed :
    let a : Atom := ⟨"+7", by decide⟩
    let b : Atom := ⟨"7", by decide⟩
    ∃ isEq isLess isGreater : Bool,
      eq.Answers a b (.ok (.atom (.ofBool isEq))) ∧
      less.Answers a b (.ok (.atom (.ofBool isLess))) ∧
      greater.Answers a b (.ok (.atom (.ofBool isGreater))) ∧
      [isEq, isLess, isGreater].count true = 1 := by
  intro a b
  obtain ⟨x, y, isEq, isLess, isGreater, -, -, heq, hless, hgreater, hone, -, -⟩ :=
    comparisons_exclude_each_other (a := a) (b := b) (by decide) (by decide) (by decide) (by decide)
  exact ⟨isEq, isLess, isGreater, heq, hless, hgreater, hone fun h => h.2 (by decide)⟩

open Primitive in
/-- `-0` and `0` are integers of one digit, and none of the three comparisons is true of them. -/
theorem comparisons_of_negative_zero :
    let a : Atom := ⟨"-0", by decide⟩
    let b : Atom := ⟨"0", by decide⟩
    a.isInt = true ∧ b.isInt = true ∧ a.digitCount ≤ Numeral.digitLimit ∧
      b.digitCount ≤ Numeral.digitLimit ∧
      ∀ p ∈ [eq, less, greater], p.Answers a b (.ok .nil) ∧ ¬ p.Answers a b (.ok (.atom .t)) := by
  intro a b
  refine ⟨by decide, by decide, by decide, by decide, ?_⟩
  have hvalue : a.value = .ok 0 := (rfl : (Atom.mk "-0" (by decide)).value = .ok 0)
  have hvalue' : b.value = .ok 0 := (rfl : (Atom.mk "0" (by decide)).value = .ok 0)
  intro p hp
  have hnil : p.arity? = some 2 ∧ p.apply [.atom a, .atom b] = .ok .nil := by
    simp only [List.mem_cons, List.not_mem_nil, or_false] at hp
    rcases hp with rfl | rfl | rfl
    · have htext : a.text ≠ b.text := by decide
      exact ⟨rfl, by rw [apply_eq_atoms, decide_eq_false htext]; rfl⟩
    · exact ⟨rfl, apply_less hvalue hvalue'⟩
    · exact ⟨rfl, apply_greater hvalue hvalue'⟩
  have hanswers := answers_apply hnil.1 (a := a) (b := b) (by decide) (by decide)
  rw [hnil.2] at hanswers
  refine ⟨hanswers, fun h => ?_⟩
  have hsame := hanswers.unique h
  simp [Sexp.nil, Atom.nil, Atom.t] at hsame

end MiniLisp
