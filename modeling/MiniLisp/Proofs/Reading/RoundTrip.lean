import MiniLisp.Proofs.Atom
import MiniLisp.Proofs.Reading.Grammar
import MiniLisp.Proofs.Reading.Layout
import MiniLisp.Proofs.Sexp

/-! # Reading undoes showing

The text that shows an expression is cut into the expression's own tokens, which the grammar derives;
so the text reads as the expression again, but for the pluses in front of integers, which are not
shown. Only a symbol whose upper case is `NIL` or `T` would not come back, and the reader makes none. -/

namespace MiniLisp

namespace Sexp

/-! ## Readable expressions -/

/-- Each symbol is `NIL` or `T` themselves, or not one of their other spellings. -/
def Readable (x : Sexp) : Prop :=
  ∀ a ∈ x.atoms, a.isSymbol = true →
    a.lit = "NIL" ∨ a.lit = "T" ∨ Text.upper a.lit ≠ "NIL" ∧ Text.upper a.lit ≠ "T"

instance (x : Sexp) : Decidable x.Readable :=
  inferInstanceAs (Decidable (∀ a ∈ x.atoms, a.isSymbol = true →
    a.lit = "NIL" ∨ a.lit = "T" ∨ Text.upper a.lit ≠ "NIL" ∧ Text.upper a.lit ≠ "T"))

theorem readable_list {head : Sexp} {tail : List Sexp} :
    (Sexp.list head tail).Readable ↔ ∀ x ∈ head :: tail, x.Readable := by
  constructor
  · intro h x hx a ha
    exact h a (mem_atoms_list.2 ⟨x, hx, ha⟩)
  · intro h a ha
    obtain ⟨x, hx, ha⟩ := mem_atoms_list.1 ha
    exact h x hx a ha

theorem readable_atom {a : Atom} : (Sexp.atom a).Readable ↔ (a.isSymbol = true →
    a.lit = "NIL" ∨ a.lit = "T" ∨ Text.upper a.lit ≠ "NIL" ∧ Text.upper a.lit ≠ "T") := by
  simp [Readable, atoms]

/-! ## Dropping pluses -/

mutual

/-- The expression without the pluses in front of its integers. -/
def unsigned : Sexp → Sexp
  | .atom a => .atom a.unsigned
  | .list head tail => .list head.unsigned (unsignedAll tail)

/-- The expressions without the pluses in front of their integers. -/
def unsignedAll : List Sexp → List Sexp
  | [] => []
  | x :: xs => x.unsigned :: unsignedAll xs

end

mutual

theorem chars_unsigned : ∀ x : Sexp, x.unsigned.chars = x.chars
  | .atom a => congrArg String.toList a.text_unsigned
  | .list head tail => by
    rw [unsigned, chars, chars, chars_unsigned head, tailChars_unsignedAll tail]

theorem tailChars_unsignedAll : ∀ xs : List Sexp, tailChars (unsignedAll xs) = tailChars xs
  | [] => rfl
  | x :: xs => by
    rw [unsignedAll, tailChars, tailChars, chars_unsigned x, tailChars_unsignedAll xs]

end

/-! ## Tokens of an expression -/

mutual

/-- The tokens that show an expression. -/
def tokens : Sexp → List Token
  | .atom a => [⟨.atom, a.text⟩]
  | .list head tail => ⟨.lparen, "("⟩ :: (head.tokens ++ tokensOfAll tail ++ [⟨.rparen, ")"⟩])

/-- The tokens that show several expressions. -/
def tokensOfAll : List Sexp → List Token
  | [] => []
  | x :: xs => x.tokens ++ tokensOfAll xs

end

end Sexp

namespace Sexp

open Token (ofChars EndsAtom)

theorem endsAtom_tailChars (xs : List Sexp) (rest : List Char) : EndsAtom (tailChars xs ++ rest) := by
  intro c hc
  cases xs with
  | nil =>
    cases hc
    decide
  | cons x xs =>
    cases hc
    decide

mutual

/-- The text of an expression is cut into its tokens, where the text after it does not go on with an
    atom. -/
theorem ofChars_chars_append : ∀ (x : Sexp) (rest : List Char), EndsAtom rest →
    ofChars (x.chars ++ rest) = x.tokens ++ ofChars rest
  | .atom a, rest, hrest => by
    obtain ⟨c, cs, hlist, -, -⟩ := a.toList_text
    have hmem : ∀ d ∈ c :: cs, Token.isAtomChar d = true := by
      intro d hd
      exact Atom.isAtomChar_of_mem_text (hlist ▸ hd)
    have hatom := Token.ofChars_atom (hmem c List.mem_cons_self)
      (fun d hd => hmem d (List.mem_cons_of_mem c hd)) hrest
    rw [← hlist, String.ofList_toList] at hatom
    rw [chars, hlist, List.cons_append, hatom]
    rfl
  | .list head tail, rest, _ => by
    -- a blank or a parenthesis follows the head, so its last atom ends there
    have hhead := ofChars_chars_append head (tailChars tail ++ rest) (endsAtom_tailChars tail rest)
    have htail := ofChars_tailChars_append tail rest
    rw [chars, List.cons_append, List.append_assoc, Token.ofChars_lparen, hhead, htail, tokens]
    simp

theorem ofChars_tailChars_append : ∀ (xs : List Sexp) (rest : List Char),
    ofChars (tailChars xs ++ rest) = tokensOfAll xs ++ ⟨.rparen, ")"⟩ :: ofChars rest
  | [], rest => Token.ofChars_rparen rest
  | x :: xs, rest => by
    have hhead := ofChars_chars_append x (tailChars xs ++ rest) (endsAtom_tailChars xs rest)
    have htail := ofChars_tailChars_append xs rest
    rw [tailChars, List.cons_append, List.append_assoc, Token.ofChars_blank (by decide),
      hhead, htail, tokensOfAll, List.append_assoc]

end

theorem lex_render (x : Sexp) : Token.lex x.render = x.tokens := by
  have hlex := ofChars_chars_append x [] nofun
  have hend : ofChars [] = [] := by rw [Token.ofChars]
  rw [List.append_nil, hend, List.append_nil] at hlex
  rw [Token.lex, render, String.toList_ofList, hlex]

end Sexp

namespace Reading

open Sexp (tokensOfAll unsignedAll)

/-! ## Tokens of an expression are a datum -/

/-- The text of a readable atom is read as the atom without its plus. -/
theorem readAtom_text {a : Atom} (h : (Sexp.atom a).Readable) :
    readAtom a.text = .ok a.unsigned := by
  have hplain : Text.upper a.text ≠ "NIL" → Text.upper a.text ≠ "T" →
      readAtom a.text = .ok a.unsigned := by
    intro hnil ht
    rw [readAtom, if_neg hnil, if_neg ht, Atom.ofText, Atom.ofText?, dif_pos a.isAtomLiteral_text]
    rfl
  cases hint : a.isInt with
  | true =>
    obtain ⟨hnil, ht⟩ := Atom.upper_text_of_isInt hint
    exact hplain hnil ht
  | false =>
    have hsymbol : isSymbolLiteral a.lit = true := by
      rcases a.isSymbolLiteral_or_isInt with hsymbol | hother
      · exact hsymbol
      · rw [hint] at hother
        cases hother
    have htext : a.text = a.lit := (Atom.text_of_isSymbolLiteral hsymbol).1
    have hcases := Sexp.readable_atom.1 h (by rw [Atom.isSymbol, hint]; rfl)
    rw [← htext] at hcases
    rcases hcases with hnil | ht | ⟨hnil, ht⟩
    · have hsame : a.unsigned = .nil := Atom.ext_lit hnil
      rw [hsame, hnil, readAtom, if_pos (by decide)]
    · have hsame : a.unsigned = .t := Atom.ext_lit ht
      rw [hsame, ht, readAtom, if_neg (by decide), if_pos (by decide)]
    · exact hplain hnil ht

mutual

theorem datum_tokens : ∀ x : Sexp, x.Readable → Datum x.tokens x.unsigned
  | .atom a, h => by
    have hread := readAtom_text h
    exact .atom (isAtomText_of_readAtom hread) hread
  | .list head tail, h => by
    rw [Sexp.readable_list] at h
    have hhead := datum_tokens head (h head List.mem_cons_self)
    have htail := data_tokensOfAll tail fun x hx => h x (List.mem_cons_of_mem head hx)
    exact .list (.cons hhead htail)

theorem data_tokensOfAll : ∀ xs : List Sexp, (∀ x ∈ xs, x.Readable) →
    Data (tokensOfAll xs) (unsignedAll xs)
  | [], _ => .nil
  | x :: xs, h => .cons (datum_tokens x (h x List.mem_cons_self))
      (data_tokensOfAll xs fun y hy => h y (List.mem_cons_of_mem x hy))

end

/-! ## Forms that are read are readable -/

theorem readable_of_readAtom {text : String} {a : Atom} (h : readAtom text = .ok a) :
    (Sexp.atom a).Readable := by
  rw [Sexp.readable_atom]
  intro _
  obtain ⟨-, rfl⟩ | ⟨-, rfl⟩ | ⟨-, hupper⟩ := readAtom_eq_ok h
  · exact Or.inl rfl
  · exact Or.inr (Or.inl rfl)
  · exact Or.inr (Or.inr hupper)

theorem readable_nil : Sexp.nil.Readable := by
  rw [Sexp.nil, Sexp.readable_atom]
  exact fun _ => Or.inl rfl

mutual

theorem Datum.readable : ∀ {toks : List Token} {x : Sexp}, Datum toks x → x.Readable
  | _, _, .atom _ denotes => readable_of_readAtom denotes
  | _, _, .quote quoted => by
    have hx := quoted.readable
    rw [quotation, Sexp.readable_list]
    intro y hy
    rcases List.mem_cons.1 hy with rfl | hy
    · rw [Sexp.readable_atom]
      exact fun _ => Or.inr (Or.inr (by decide))
    · exact List.mem_singleton.1 hy ▸ hx
  | _, _, @Datum.list _ _ _ xs elements => by
    have hxs := elements.readable
    cases xs with
    | nil => exact readable_nil
    | cons x xs => exact Sexp.readable_list.2 hxs

theorem Data.readable : ∀ {toks : List Token} {xs : List Sexp}, Data toks xs →
    ∀ x ∈ xs, x.Readable
  | _, _, .nil => nofun
  | _, _, .cons head tail => by
    have hhead := head.readable
    have htail := tail.readable
    intro y hy
    rcases List.mem_cons.1 hy with rfl | hy
    · exact hhead
    · exact htail y hy

end

end Reading

theorem readable_of_mem_read {source : String} {x : Sexp} (h : x ∈ (read source).forms) :
    x.Readable := by
  obtain ⟨done, rest, -, hdata, -⟩ := Reading.ofTokens_sound (Token.lex source)
  exact hdata.readable x h

/-- A text with the tokens of an expression, however they are laid out, reads as the expression. -/
theorem read_of_lex {source : String} {x : Sexp} (h : x.Readable)
    (hlex : Token.lex source = x.tokens) : read source = ⟨[x.unsigned], none, []⟩ := by
  have hdata : Reading.Data (x.tokens ++ []) [x.unsigned] :=
    .cons (Reading.datum_tokens x h) .nil
  rw [List.append_nil] at hdata
  rw [read, hlex]
  exact hdata.ofTokens_eq

theorem read_render_eq {x : Sexp} (h : x.Readable) : read x.render = ⟨[x.unsigned], none, []⟩ :=
  read_of_lex h x.lex_render

/-- The text that shows an expression reads as one form, which is the expression but for the pluses
    in front of its integers, and looks like it. This holds of every expression that the reader
    makes. -/
theorem read_render :
    (∀ f : Sexp, f.Readable → ∃ g, read f.render = ⟨[g], none, []⟩ ∧ g.render = f.render ∧
      (g == f) = true ∧ g = f.unsigned) ∧
      ∀ source, ∀ f ∈ (read source).forms, f.Readable := by
  refine ⟨?_, fun source f => readable_of_mem_read⟩
  intro f h
  have hrender : f.unsigned.render = f.render := congrArg String.ofList f.chars_unsigned
  refine ⟨f.unsigned, read_render_eq h, hrender, ?_, rfl⟩
  show (f.unsigned.render == f.render) = true
  rw [hrender, beq_self_eq_true]

/-- `(+5 (λ T) NIL)` comes back with `5` for `+5`, and what `'(+5 t)` is read as would come back. -/
theorem read_render_signed :
    let f : Sexp := .list (.atom ⟨"+5", by decide⟩)
      [.list (.atom ⟨"λ", by decide +kernel⟩) [.atom .t], .nil]
    (f.Readable ∧ ∃ g, read f.render = ⟨[g], none, []⟩ ∧ g.render = f.render ∧ (g == f) = true ∧
      g = f.unsigned) ∧
      ∃ h ∈ (read "'(+5 t)").forms, h.Readable := by
  intro f
  have hreadable : f.Readable := by decide +kernel
  refine ⟨⟨hreadable, read_render.1 f hreadable⟩, ?_⟩
  have hone : (read "'(+5 t)").forms.length = 1 := by decide +kernel
  obtain ⟨h, hforms⟩ := List.length_eq_one_iff.1 hone
  have hmem : h ∈ (read "'(+5 t)").forms := hforms ▸ List.mem_singleton_self h
  exact ⟨h, hmem, read_render.2 _ h hmem⟩

end MiniLisp
