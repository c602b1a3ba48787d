import MiniLisp.Atom
import MiniLisp.Proofs.Case
import MiniLisp.Token

/-! # The text of atoms

An atom is shown as a run of word characters, with a minus in front if it is a negative integer. No
such character ends a run in the text of a program, so the text of an atom is one token. -/

namespace MiniLisp

namespace Text

/-! ## Classes of characters -/

/-- Tables whose ranges lie apart have no member in common. -/
theorem Ranges.not_contains_of_apart {start start' : Nat} {rs qs : Ranges}
    (hrs : Ranges.AscendingFrom start rs) (hqs : Ranges.AscendingFrom start' qs)
    (hapart : ∀ r ∈ rs, ∀ q ∈ qs, r.2 < q.1 ∨ q.2 < r.1) {n : Nat} (h : rs.contains n = true) :
    qs.contains n = false := by
  rw [Bool.eq_false_iff]
  intro hq
  obtain ⟨r, hr, hlo, hhi⟩ := (Ranges.contains_iff hrs n).1 h
  obtain ⟨q, hq, hlo', hhi'⟩ := (Ranges.contains_iff hqs n).1 hq
  rcases hapart r hr q hq with hlt | hlt <;> omega

theorem not_isBlank_of_isWordChar {c : Char} (h : isWordChar c = true) : isBlank c = false := by
  refine Ranges.not_contains_of_apart wordRanges_ascending blankRanges_ascending ?_ h
  decide +kernel

theorem isWordChar_of_isDigit {c : Char} (h : c.isDigit = true) : isWordChar c = true :=
  isWordChar_of_isAlphanum (by simp [Char.isAlphanum, h])

/-! ## Capitals and small letters -/

/-- Characters before the small letters are their own upper case. -/
theorem upperChar_of_lt {c : Char} (h : c.toNat < 0x61) : upperChar c = [c] := by
  have hexpansion : CaseMapping.expansion? upperMapping.expansions c.toNat = none := by
    show (if c.toNat < 0xDF then none else _) = none
    exact if_pos (by omega)
  have hoffset : CaseMapping.offset? upperMapping.runs c.toNat = none := by
    show (if c.toNat < 0x61 then none else _) = none
    exact if_pos h
  rw [upperChar, CaseMapping.image, hexpansion, hoffset]

/-- Characters before the capitals are their own lower case. -/
theorem lowerChar_of_lt {c : Char} (h : c.toNat < 0x41) : lowerChar c = [c] := by
  have hexpansion : CaseMapping.expansion? lowerMapping.expansions c.toNat = none := by
    show (if c.toNat < 0x130 then none else _) = none
    exact if_pos (by omega)
  have hoffset : CaseMapping.offset? lowerMapping.runs c.toNat = none := by
    show (if c.toNat < 0x41 then none else _) = none
    exact if_pos h
  rw [lowerChar, CaseMapping.image, hexpansion, hoffset]

theorem toList_upper (s : String) : (upper s).toList = s.toList.flatMap upperChar := by
  rw [upper, CaseMapping.text, String.toList_ofList]
  rfl

theorem toList_lower (s : String) : (lower s).toList = s.toList.flatMap lowerChar := by
  rw [lower, CaseMapping.text, String.toList_ofList]
  rfl

end Text

/-! ## Numerals -/

theorem Numeral.digits_of_isDigit {cs : List Char} (h : ∀ c ∈ cs, c.isDigit = true) :
    Numeral.digits cs = cs := by
  cases cs with
  | nil => rfl
  | cons c cs =>
    have hdigit := h c List.mem_cons_self
    rw [Numeral.digits.eq_def]
    split
    · next heq => cases heq; exact absurd hdigit (by decide)
    · next heq => cases heq; exact absurd hdigit (by decide)
    · rfl

theorem Numeral.isNumeral_of_isDigit {cs : List Char} (hne : cs ≠ [])
    (h : ∀ c ∈ cs, c.isDigit = true) : Numeral.isNumeral cs = true := by
  rw [Numeral.isNumeral, Numeral.digits_of_isDigit h, Bool.and_eq_true, List.all_eq_true]
  exact ⟨by simpa using hne, h⟩

/-- The ways to write an integer. -/
theorem Numeral.isNumeral_cases {cs : List Char} (h : Numeral.isNumeral cs = true) :
    ∃ ds, ds ≠ [] ∧ (∀ c ∈ ds, c.isDigit = true) ∧ (cs = '+' :: ds ∨ cs = '-' :: ds ∨ cs = ds) := by
  rw [Numeral.isNumeral, Bool.and_eq_true, List.all_eq_true] at h
  obtain ⟨hne, hdigits⟩ := h
  refine ⟨Numeral.digits cs, by simpa using hne, hdigits, ?_⟩
  rw [Numeral.digits.eq_def]
  split
  · exact Or.inr (Or.inl rfl)
  · exact Or.inl rfl
  · exact Or.inr (Or.inr rfl)

/-! ## Symbols -/

theorem isIntegerLiteral_of_isSymbolLiteral {s : String} (h : isSymbolLiteral s = true) :
    isIntegerLiteral s = false := by
  rw [Bool.eq_false_iff]
  intro hint
  obtain ⟨ds, hne, hdigits, hcs⟩ := Numeral.isNumeral_cases hint
  obtain ⟨d, ds, rfl⟩ := List.exists_cons_of_ne_nil hne
  have hdigit := Text.isDecimalDigit_of_isDigit (hdigits d List.mem_cons_self)
  have hplus : Text.isWordChar '+' = false := by decide
  have hminus : Text.isWordChar '-' = false := by decide
  rw [isSymbolLiteral] at h
  rcases hcs with hcs | hcs | hcs <;> simp [hcs, hplus, hminus, hdigit] at h

/-- A text is a symbol if its image in capitals is made of characters that only letters lead to. -/
theorem isSymbolLiteral_of_upper {s name : String} (h : Text.upper s = name) (hne : name ≠ "")
    (hletters : name.toList.all fun x => x.toNat ≠ 0 && (Text.upperMapping.sources x.toNat).all
      fun n => Text.isWordChar (Char.ofNat n) && !Text.isDecimalDigit (Char.ofNat n)) :
    isSymbolLiteral s = true := by
  simp only [List.all_eq_true, Bool.and_eq_true, decide_eq_true_eq, Bool.not_eq_true'] at hletters
  have hchars : ∀ c ∈ s.toList, Text.isWordChar c = true ∧ Text.isDecimalDigit c = false := by
    intro c hc
    subst h
    obtain ⟨x, hx, hsource⟩ := Text.CaseMapping.exists_source_of_mem
      Text.upperMapping_expansions_ne_nil (fun x hx => (hletters x hx).1) hc
    have hletter := (hletters x hx).2 _ hsource
    rwa [Char.ofNat_toNat] at hletter
  rw [isSymbolLiteral]
  cases hlist : s.toList with
  | nil =>
    obtain rfl : s = "" := String.toList_eq_nil_iff.1 hlist
    exact absurd h.symm hne
  | cons c cs =>
    rw [hlist] at hchars
    obtain ⟨hword, hdigit⟩ := hchars c List.mem_cons_self
    have hrest : ∀ d ∈ cs, Text.isWordChar d = true :=
      fun d hd => (hchars d (List.mem_cons_of_mem c hd)).1
    simpa [hword, hdigit] using hrest

namespace Atom

/-! ## Text -/

theorem text_of_toList {a : Atom} {c : Char} {cs : List Char} (h : a.lit.toList = c :: cs)
    (hc : c ≠ '+') : a.text = a.lit := by
  rw [text.eq_def]
  split
  · next heq =>
    rw [h] at heq
    cases heq
    exact absurd rfl hc
  · rfl

theorem text_of_plus {a : Atom} {cs : List Char} (h : a.lit.toList = '+' :: cs) :
    a.text = String.ofList cs := by
  rw [text.eq_def]
  split
  · next heq =>
    rw [h] at heq
    cases heq
    rfl
  · next hne => exact absurd h (hne cs)

/-- A symbol is shown as it is written. -/
theorem text_of_isSymbolLiteral {a : Atom} (h : isSymbolLiteral a.lit = true) :
    a.text = a.lit ∧ ∃ c cs, a.lit.toList = c :: cs ∧ ∀ d ∈ c :: cs, Text.isWordChar d = true := by
  rw [isSymbolLiteral] at h
  split at h
  · cases h
  · next c cs heq =>
    simp only [Bool.and_eq_true, List.all_eq_true] at h
    obtain ⟨⟨hc, -⟩, hcs⟩ := h
    have hne : c ≠ '+' := by
      rintro rfl
      exact absurd hc (by decide)
    refine ⟨text_of_toList heq hne, c, cs, heq, ?_⟩
    intro d hd
    rcases List.mem_cons.1 hd with rfl | hd
    · exact hc
    · exact hcs d hd

/-- An integer is shown as digits, with a minus in front if it was written with one. -/
theorem text_of_isInt {a : Atom} (h : a.isInt = true) :
    ∃ ds, ds ≠ [] ∧ (∀ c ∈ ds, c.isDigit = true) ∧
      (a.text.toList = ds ∨ a.text.toList = '-' :: ds) := by
  obtain ⟨ds, hne, hdigits, hplus | hminus | hplain⟩ := Numeral.isNumeral_cases h
  · refine ⟨ds, hne, hdigits, Or.inl ?_⟩
    rw [text_of_plus hplus, String.toList_ofList]
  · refine ⟨ds, hne, hdigits, Or.inr ?_⟩
    rw [text_of_toList hminus (by decide), hminus]
  · refine ⟨ds, hne, hdigits, Or.inl ?_⟩
    obtain ⟨d, ds', rfl⟩ := List.exists_cons_of_ne_nil hne
    have hd : d ≠ '+' := by
      rintro rfl
      exact absurd (hdigits _ List.mem_cons_self) (by decide)
    rw [text_of_toList hplain hd, hplain]

theorem isSymbolLiteral_or_isInt (a : Atom) : isSymbolLiteral a.lit = true ∨ a.isInt = true := by
  have hvalid := a.valid
  rw [isAtomLiteral, Bool.or_eq_true] at hvalid
  exact hvalid

/-- The text of an atom is a run of word characters, perhaps with a minus in front. -/
theorem toList_text (a : Atom) : ∃ c cs, a.text.toList = c :: cs ∧
    (Text.isWordChar c = true ∨ c = '-') ∧ ∀ d ∈ cs, Text.isWordChar d = true := by
  rcases a.isSymbolLiteral_or_isInt with hsymbol | hint
  · obtain ⟨htext, c, cs, hlist, hword⟩ := text_of_isSymbolLiteral hsymbol
    exact ⟨c, cs, htext ▸ hlist, Or.inl (hword c List.mem_cons_self),
      fun d hd => hword d (List.mem_cons_of_mem c hd)⟩
  · obtain ⟨ds, hne, hdigits, hplain | hminus⟩ := text_of_isInt hint
    · obtain ⟨d, ds', rfl⟩ := List.exists_cons_of_ne_nil hne
      exact ⟨d, ds', hplain, Or.inl (Text.isWordChar_of_isDigit (hdigits d List.mem_cons_self)),
        fun c hc => Text.isWordChar_of_isDigit (hdigits c (List.mem_cons_of_mem d hc))⟩
    · exact ⟨'-', ds, hminus, Or.inr rfl, fun c hc => Text.isWordChar_of_isDigit (hdigits c hc)⟩

theorem isAtomLiteral_text (a : Atom) : isAtomLiteral a.text = true := by
  rcases a.isSymbolLiteral_or_isInt with hsymbol | hint
  · rw [(text_of_isSymbolLiteral hsymbol).1]
    exact a.valid
  · have hnumeral : isIntegerLiteral a.text = true := by
      obtain ⟨ds, hne, hdigits, hplain | hminus⟩ := text_of_isInt hint
      · rw [isIntegerLiteral, hplain]
        exact Numeral.isNumeral_of_isDigit hne hdigits
      · rw [isIntegerLiteral, hminus, Numeral.isNumeral, Numeral.digits, Bool.and_eq_true,
          List.all_eq_true]
        exact ⟨by simpa using hne, hdigits⟩
    rw [isAtomLiteral, hnumeral, Bool.or_true]

theorem ext_lit {a b : Atom} (h : a.lit = b.lit) : a = b := by
  cases a
  cases b
  cases h
  rfl

/-- The atom without the plus in front of an integer. -/
def unsigned (a : Atom) : Atom := ⟨a.text, a.isAtomLiteral_text⟩

/-- Dropping the plus does not show. -/
theorem text_unsigned (a : Atom) : a.unsigned.text = a.text := by
  obtain ⟨c, cs, hlist, hc, -⟩ := a.toList_text
  refine text_of_toList (a := a.unsigned) hlist ?_
  rintro rfl
  rcases hc with hword | hminus
  · exact absurd hword (by decide)
  · exact absurd hminus (by decide)

/-- The text of an integer begins with a digit or a minus, which come before all letters. -/
theorem head_text_of_isInt {a : Atom} (h : a.isInt = true) :
    ∃ c cs, a.text.toList = c :: cs ∧ c.toNat < 0x41 := by
  have hdigit : ∀ d : Char, d.isDigit = true → d.toNat < 0x41 := by
    intro d hd
    simp only [Char.isDigit, ge_iff_le, Bool.and_eq_true, decide_eq_true_eq,
      UInt32.le_iff_toNat_le] at hd
    exact Nat.lt_of_le_of_lt hd.2 (by decide)
  obtain ⟨ds, hne, hdigits, hplain | hminus⟩ := text_of_isInt h
  · obtain ⟨d, ds', rfl⟩ := List.exists_cons_of_ne_nil hne
    exact ⟨d, ds', hplain, hdigit d (hdigits d List.mem_cons_self)⟩
  · exact ⟨'-', ds, hminus, by decide⟩

/-- The text of an integer is not in the way of `NIL` and `T`. -/
theorem upper_text_of_isInt {a : Atom} (h : a.isInt = true) :
    Text.upper a.text ≠ "NIL" ∧ Text.upper a.text ≠ "T" := by
  obtain ⟨c, cs, hlist, hlt⟩ := head_text_of_isInt h
  have hupper : (Text.upper a.text).toList = c :: cs.flatMap Text.upperChar := by
    rw [Text.toList_upper, hlist, List.flatMap_cons, Text.upperChar_of_lt (by omega)]
    rfl
  have hother : ∀ d ds, Text.upper a.text = String.ofList (d :: ds) → c = d := by
    intro d ds heq
    rw [heq, String.toList_ofList] at hupper
    exact (List.cons.inj hupper).1.symm
  refine ⟨fun hnil => ?_, fun ht => ?_⟩
  · have hN := hother 'N' ['I', 'L'] hnil
    subst hN
    exact absurd hlt (by decide)
  · have hT := hother 'T' [] ht
    subst hT
    exact absurd hlt (by decide)

/-- Nor is it a name of anonymous functions. -/
theorem isLambdaName_text_of_isInt {a : Atom} (h : a.isInt = true) :
    isLambdaName a.text = false := by
  obtain ⟨c, cs, hlist, hlt⟩ := head_text_of_isInt h
  have hlower : (Text.lower a.text).toList = c :: cs.flatMap Text.lowerChar := by
    rw [Text.toList_lower, hlist, List.flatMap_cons, Text.lowerChar_of_lt hlt]
    rfl
  have hother : ∀ d ds, 0x41 ≤ d.toNat → Text.lower a.text ≠ String.ofList (d :: ds) := by
    intro d ds hd heq
    rw [heq, String.toList_ofList, List.cons.injEq] at hlower
    rw [hlower.1] at hd
    omega
  have hlatin := hother 'l' ['a', 'm', 'b', 'd', 'a'] (by decide)
  have hgreek := hother 'λ' [] (by decide)
  simpa [isLambdaName] using ⟨hlatin, hgreek⟩

theorem isSymbolLiteral_of_isLambdaName_text {a : Atom} (h : isLambdaName a.text = true) :
    isSymbolLiteral a.lit = true := by
  refine a.isSymbolLiteral_or_isInt.resolve_right fun hint => ?_
  rw [isLambdaName_text_of_isInt hint] at h
  cases h

end Atom

/-! ## Characters of tokens -/

theorem Token.isAtomChar_of_isWordChar {c : Char} (h : Text.isWordChar c = true) :
    Token.isAtomChar c = true := by
  have hne : ∀ d, Text.isWordChar d = false → c ≠ d := by
    rintro d hd rfl
    rw [h] at hd
    cases hd
  simp [isAtomChar, Text.not_isBlank_of_isWordChar h, hne '(' (by decide),
    hne ')' (by decide), hne ';' (by decide), hne '\x27' (by decide)]

theorem Atom.isAtomChar_of_mem_text {a : Atom} {c : Char} (h : c ∈ a.text.toList) :
    Token.isAtomChar c = true := by
  obtain ⟨first, others, hlist, hfirst, hothers⟩ := a.toList_text
  rw [hlist, List.mem_cons] at h
  rcases h with rfl | h
  · rcases hfirst with hword | rfl
    · exact Token.isAtomChar_of_isWordChar hword
    · decide
  · exact Token.isAtomChar_of_isWordChar (hothers c h)

end MiniLisp
