import MiniLisp.Reading

/-! # The grammar of programs

What the reader accepts, as a grammar over tokens: a datum is an atom, a quote mark and a datum, or
data between parentheses. `Datum` and `Data` say which tokens are data and what they denote, without
a stack; the reader agrees with them in both directions. So a sequence of tokens denotes at most one
sequence of forms, and the forms read before an error are all the data that there are. -/

namespace MiniLisp.Reading

/-- The texts of atom tokens that denote an atom: symbols, integers and the spellings of `NIL` and
    `T` in any case. -/
def IsAtomText (text : String) : Prop :=
  isSymbolLiteral text = true ∨ isIntegerLiteral text = true ∨
    Text.upper text = "NIL" ∨ Text.upper text = "T"

mutual

/-- The tokens are one datum, which denotes the expression. -/
inductive Datum : List Token → Sexp → Prop where
  | atom {text : String} {a : Atom} (wellFormed : IsAtomText text) (denotes : readAtom text = .ok a) :
      Datum [⟨.atom, text⟩] (.atom a)
  | quote {mark : String} {toks : List Token} {x : Sexp} (quoted : Datum toks x) :
      Datum (⟨.quote, mark⟩ :: toks) (quotation x)
  | list {opening closing : String} {toks : List Token} {xs : List Sexp} (elements : Data toks xs) :
      Datum (⟨.lparen, opening⟩ :: (toks ++ [⟨.rparen, closing⟩])) (Sexp.ofList xs)

/-- The tokens are data one after the other, which denote the expressions. -/
inductive Data : List Token → List Sexp → Prop where
  | nil : Data [] []
  | cons {toks rest : List Token} {x : Sexp} {xs : List Sexp} (head : Datum toks x)
      (tail : Data rest xs) : Data (toks ++ rest) (x :: xs)

end

/-! ## Atoms -/

theorem readAtom_of_isAtomText {text : String} (h : IsAtomText text) :
    ∃ a, readAtom text = .ok a := by
  rw [readAtom]
  by_cases hnil : Text.upper text = "NIL"
  · exact ⟨.nil, if_pos hnil⟩
  · by_cases ht : Text.upper text = "T"
    · exact ⟨.t, by simp [ht]⟩
    · have hliteral : isAtomLiteral text = true := by
        rw [isAtomLiteral, Bool.or_eq_true]
        rcases h with h | h | h | h
        · exact Or.inl h
        · exact Or.inr h
        · exact absurd h hnil
        · exact absurd h ht
      exact ⟨⟨text, hliteral⟩, by simp [hnil, ht, Atom.ofText, Atom.ofText?, hliteral]⟩

theorem isAtomText_of_readAtom {text : String} {a : Atom} (h : readAtom text = .ok a) :
    IsAtomText text := by
  by_cases hnil : Text.upper text = "NIL"
  · exact Or.inr (Or.inr (Or.inl hnil))
  · by_cases ht : Text.upper text = "T"
    · exact Or.inr (Or.inr (Or.inr ht))
    · by_cases hliteral : isAtomLiteral text = true
      · rw [isAtomLiteral, Bool.or_eq_true] at hliteral
        exact hliteral.imp_right Or.inl
      · simp [readAtom, hnil, ht, Atom.ofText, Atom.ofText?, hliteral] at h

/-- What an atom's text is read as: one of the two constants, or the symbol or integer that it is. -/
theorem readAtom_eq_ok {text : String} {a : Atom} (h : readAtom text = .ok a) :
    Text.upper text = "NIL" ∧ a = .nil ∨ Text.upper text = "T" ∧ a = .t ∨
      a.lit = text ∧ Text.upper a.lit ≠ "NIL" ∧ Text.upper a.lit ≠ "T" := by
  rw [readAtom] at h
  split at h
  · next hnil =>
    cases h
    exact Or.inl ⟨hnil, rfl⟩
  · next hnil =>
    split at h
    · next ht =>
      cases h
      exact Or.inr (Or.inl ⟨ht, rfl⟩)
    · next ht =>
      rw [Atom.ofText, Atom.ofText?] at h
      split at h
      · next hsome =>
        split at hsome
        · cases hsome
          cases h
          exact Or.inr (Or.inr ⟨rfl, hnil, ht⟩)
        · cases hsome
      · cases h

theorem kind_of_readAtom {text : String} {e : Error} (h : readAtom text = .error e) :
    e.kind = .malformed := by
  simp only [readAtom, Atom.ofText] at h
  split at h
  · cases h
  · split at h
    · cases h
    · split at h
      · cases h
      · cases h
        rfl

/-! ## What the grammar derives is read -/

/-- A complete form is never an error: the list for a quote mark can always be built. -/
theorem complete_cases (x : Sexp) (stack : List Frame) :
    (∃ y, complete x stack = .done y) ∨ ∃ stack', complete x stack = .more stack' := by
  induction stack generalizing x with
  | nil => exact Or.inl ⟨x, rfl⟩
  | cons frame stack ih =>
    cases frame with
    | quote =>
      rw [complete_quote]
      exact ih (quotation x)
    | list items => exact Or.inr ⟨_, rfl⟩

/-- How reading goes on after a complete form. -/
def answer (x : Sexp) : List Frame → List Token → Step
  | [], rest => (.ok (some x), rest)
  | .quote :: stack, rest => answer (quotation x) stack rest
  | .list items :: stack, rest => resume (.list (x :: items) :: stack) rest

theorem answer_of_done {x y : Sexp} {stack : List Frame} (h : complete x stack = .done y)
    (rest : List Token) : answer x stack rest = (.ok (some y), rest) := by
  induction stack generalizing x with
  | nil => cases h; rfl
  | cons frame stack ih =>
    cases frame with
    | quote =>
      rw [complete_quote] at h
      exact ih h
    | list items => cases h

theorem answer_of_more {x : Sexp} {stack stack' : List Frame} (h : complete x stack = .more stack')
    (rest : List Token) : answer x stack rest = resume stack' rest := by
  induction stack generalizing x with
  | nil => cases h
  | cons frame stack ih =>
    cases frame with
    | quote =>
      rw [complete_quote] at h
      exact ih h
    | list items => cases h; rfl

theorem resume_of_take {x : Sexp} {stack stack' : List Frame} {tok : Token}
    (h : take stack tok = complete x stack') (rest : List Token) :
    resume stack (tok :: rest) = answer x stack' rest := by
  rw [resume, h]
  obtain ⟨y, hy⟩ | ⟨next, hnext⟩ := complete_cases x stack'
  · rw [answer_of_done hy, hy]
  · rw [answer_of_more hnext, hnext]

mutual

theorem Datum.resume_append : ∀ {toks : List Token} {x : Sexp}, Datum toks x →
    ∀ (stack : List Frame) (rest : List Token), resume stack (toks ++ rest) = answer x stack rest
  | _, _, .atom _ denotes, stack, rest => by
    refine resume_of_take ?_ rest
    simp only [take, denotes]
  | _, _, .quote quoted, stack, rest => quoted.resume_append (.quote :: stack) rest
  | _, _, @Datum.list opening closing inner xs elements, stack, rest => by
    -- the elements pile up on a list of their own, in reverse, until the parenthesis closes it
    have hinner := elements.resume_append [] stack (⟨.rparen, closing⟩ :: rest)
    have hclose : take (.list xs.reverse :: stack) ⟨.rparen, closing⟩ =
        complete (Sexp.ofList xs) stack := by
      simp only [take, close, List.reverse_reverse]
    calc resume stack (⟨.lparen, opening⟩ :: (inner ++ [⟨.rparen, closing⟩]) ++ rest)
        = resume (.list [] :: stack) (inner ++ ⟨.rparen, closing⟩ :: rest) := by
          simp [resume, take]
      _ = resume (.list xs.reverse :: stack) (⟨.rparen, closing⟩ :: rest) := by
          rw [hinner, List.append_nil]
      _ = answer (Sexp.ofList xs) stack rest := resume_of_take hclose rest

theorem Data.resume_append : ∀ {toks : List Token} {xs : List Sexp}, Data toks xs →
    ∀ (items : List Sexp) (stack : List Frame) (rest : List Token),
      resume (.list items :: stack) (toks ++ rest) =
        resume (.list (xs.reverse ++ items) :: stack) rest
  | _, _, .nil, items, stack, rest => rfl
  | _, _, .cons head tail, items, stack, rest => by
    rw [List.append_assoc, head.resume_append, answer, tail.resume_append, List.reverse_cons,
      List.append_assoc]
    rfl

end

/-- A datum is read as one form, whatever follows it. -/
theorem Datum.form_append {toks : List Token} {x : Sexp} (h : Datum toks x) (rest : List Token) :
    form (toks ++ rest) = (.ok (some x), rest) :=
  h.resume_append [] rest

/-- Data are read as the forms that they denote, and reading goes on after them. -/
theorem Data.ofTokens_append {toks : List Token} {xs : List Sexp} (h : Data toks xs)
    (rest : List Token) :
    ofTokens (toks ++ rest) =
      ⟨xs ++ (ofTokens rest).forms, (ofTokens rest).failure, (ofTokens rest).rest⟩ := by
  induction xs generalizing toks with
  | nil => cases h; rfl
  | cons x xs ih =>
    cases h with
    | cons head tail =>
      rw [List.append_assoc, ofTokens_of_form (head.form_append _), ih tail]
      rfl

/-! ## What is read has a derivation -/

theorem Data.concat {toks last : List Token} {xs : List Sexp} {x : Sexp} (h : Data toks xs)
    (hlast : Datum last x) : Data (toks ++ last) (xs ++ [x]) := by
  induction xs generalizing toks with
  | nil =>
    cases h
    have hsingle := Data.cons hlast .nil
    rwa [List.append_nil] at hsingle
  | cons y ys ih =>
    cases h with
    | cons head tail =>
      rw [List.append_assoc]
      exact .cons head (ih tail)

/-- The tokens that led to a stack of frames: each frame holds the data that its own tokens
    derive. -/
inductive Opened : List Frame → List Token → Prop where
  | nil : Opened [] []
  | quote {mark : String} {stack : List Frame} {toks : List Token} (outer : Opened stack toks) :
      Opened (.quote :: stack) (toks ++ [⟨.quote, mark⟩])
  | list {opening : String} {stack : List Frame} {toks inner : List Token} {xs : List Sexp}
      (outer : Opened stack toks) (elements : Data inner xs) :
      Opened (.list xs.reverse :: stack) (toks ++ ⟨.lparen, opening⟩ :: inner)

/-- What a move leaves behind when the form's tokens so far are `toks`: a derivation of the whole
    form, or a stack that the tokens led to. Nothing is said of errors. -/
def Move.Derives (toks : List Token) : Move → Prop
  | .done x => Datum toks x
  | .more stack => Opened stack toks
  | .fail _ | .refuse _ => True

theorem derives_complete {stack : List Frame} {toks inner : List Token} {x : Sexp}
    (h : Opened stack toks) (hx : Datum inner x) : (complete x stack).Derives (toks ++ inner) := by
  induction h generalizing x inner with
  | nil => exact hx
  | @quote mark stack toks outer ih =>
    rw [complete_quote, List.append_assoc]
    exact ih (.quote hx)
  | @list opening stack toks elementToks xs outer elements ih =>
    have hmore : Opened (.list (xs ++ [x]).reverse :: stack)
        (toks ++ ⟨.lparen, opening⟩ :: (elementToks ++ inner)) := .list outer (elements.concat hx)
    rw [List.reverse_append] at hmore
    rw [List.append_assoc]
    exact hmore

theorem derives_take {stack : List Frame} {toks : List Token} (h : Opened stack toks)
    (tok : Token) : (take stack tok).Derives (toks ++ [tok]) := by
  obtain ⟨kind, text⟩ := tok
  cases kind with
  | atom =>
    cases hatom : readAtom text with
    | error e => simp only [take, hatom, Move.Derives]
    | ok a =>
      simp only [take, hatom]
      exact derives_complete h (.atom (isAtomText_of_readAtom hatom) hatom)
  | quote => exact .quote h
  | lparen => exact .list h .nil
  | rparen =>
    cases h with
    | nil => trivial
    | quote outer => trivial
    | @list opening stack toks inner xs outer elements =>
      have hdatum : Datum (⟨.lparen, opening⟩ :: (inner ++ [⟨.rparen, text⟩])) (Sexp.ofList xs) :=
        .list elements
      have hclosed := derives_complete outer hdatum
      simp only [take, close, List.reverse_reverse]
      rw [List.append_assoc]
      exact hclosed
  | unknown name => trivial

/-- A form that was read is derived by the tokens that it took. -/
theorem datum_of_resume {stack : List Frame} {toks rest left : List Token} {x : Sexp}
    (h : Opened stack toks) (hread : resume stack rest = (.ok (some x), left)) :
    ∃ used, rest = used ++ left ∧ Datum (toks ++ used) x := by
  induction rest generalizing stack toks with
  | nil =>
    cases h with
    | nil => cases hread
    | quote outer => cases hread
    | list outer elements => cases hread
  | cons tok rest ih =>
    have hmove := derives_take h tok
    rw [resume] at hread
    cases htake : take stack tok with
    | done y =>
      rw [htake] at hread hmove
      cases hread
      exact ⟨[tok], rfl, hmove⟩
    | more stack' =>
      rw [htake] at hread hmove
      obtain ⟨used, rfl, hused⟩ := ih hmove hread
      refine ⟨tok :: used, rfl, ?_⟩
      rwa [List.append_assoc] at hused
    | fail e => rw [htake] at hread; cases hread
    | refuse e => rw [htake] at hread; cases hread

theorem datum_of_form {toks rest : List Token} {x : Sexp} (h : form toks = (.ok (some x), rest)) :
    ∃ used, toks = used ++ rest ∧ Datum used x :=
  datum_of_resume .nil h

/-! ## Errors -/

/-- The kinds of errors that reading can end with. -/
def IsReadingFailure (e : Error) : Prop := e.kind = .reading ∨ e.kind = .malformed

theorem isReadingFailure_of_take {stack : List Frame} {tok : Token} {e : Error}
    (h : take stack tok = .fail e ∨ take stack tok = .refuse e) : IsReadingFailure e := by
  obtain ⟨kind, text⟩ := tok
  -- only a token that completes nothing is an error
  have hcomplete : ∀ x stack, complete x stack ≠ .fail e ∧ complete x stack ≠ .refuse e := by
    intro x stack
    obtain ⟨y, hy⟩ | ⟨next, hnext⟩ := complete_cases x stack
    · rw [hy]; exact ⟨nofun, nofun⟩
    · rw [hnext]; exact ⟨nofun, nofun⟩
  cases kind with
  | atom =>
    cases hatom : readAtom text with
    | error e' =>
      simp only [take, hatom, Move.fail.injEq, reduceCtorEq, or_false] at h
      exact Or.inr (h ▸ kind_of_readAtom hatom)
    | ok a =>
      simp only [take, hatom] at h
      exact (h.elim (hcomplete _ _).1 (hcomplete _ _).2).elim
  | quote => simp [take] at h
  | lparen => simp [take] at h
  | rparen =>
    cases stack with
    | nil =>
      simp only [take, close, Move.refuse.injEq, reduceCtorEq, false_or] at h
      exact Or.inl (h ▸ rfl)
    | cons frame stack =>
      cases frame with
      | quote =>
        simp only [take, close, Move.refuse.injEq, reduceCtorEq, false_or] at h
        exact Or.inl (h ▸ rfl)
      | list items => exact (h.elim (hcomplete _ _).1 (hcomplete _ _).2).elim
  | unknown name =>
    simp only [take, Move.refuse.injEq, reduceCtorEq, false_or] at h
    exact Or.inl (h ▸ rfl)

theorem isReadingFailure_of_resume {stack : List Frame} {toks rest : List Token} {e : Error}
    (h : resume stack toks = (.error e, rest)) : IsReadingFailure e := by
  induction toks generalizing stack with
  | nil =>
    cases stack with
    | nil => cases h
    | cons frame stack => cases frame <;> (cases h; exact Or.inl rfl)
  | cons tok toks ih =>
    rw [resume] at h
    split at h
    · cases h
    · exact ih h
    · next htake => cases h; exact isReadingFailure_of_take (Or.inl htake)
    · next htake => cases h; exact isReadingFailure_of_take (Or.inr htake)

/-- Only where no token is left does reading end without a form and without an error. -/
theorem nil_of_resume {stack : List Frame} {toks rest left : List Token} (h : Opened stack toks)
    (hread : resume stack rest = (.ok none, left)) : toks = [] ∧ rest = [] := by
  induction rest generalizing stack toks with
  | nil =>
    cases h with
    | nil => exact ⟨rfl, rfl⟩
    | quote outer => cases hread
    | list outer elements => cases hread
  | cons tok rest ih =>
    have hmove := derives_take h tok
    rw [resume] at hread
    cases htake : take stack tok with
    | done y => rw [htake] at hread; cases hread
    | more stack' =>
      -- the stack now has a token behind it
      rw [htake] at hread hmove
      exact absurd (ih hmove hread).1 (by simp)
    | fail e => rw [htake] at hread; cases hread
    | refuse e => rw [htake] at hread; cases hread

/-- Tokens that a reader cannot go on with: there are some, and no datum begins with the first. -/
def Stuck (toks : List Token) : Prop := toks ≠ [] ∧ ∀ first x, first <+: toks → ¬ Datum first x

theorem stuck_of_form {toks rest : List Token} {e : Error} (h : form toks = (.error e, rest)) :
    Stuck toks := by
  refine ⟨?_, ?_⟩
  · rintro rfl
    cases h
  · rintro first x ⟨others, rfl⟩ hdatum
    rw [hdatum.form_append] at h
    cases h

/-! ## All forms -/

/-- The forms that are read are those of data in front, and what stops the reader is the end of the
    tokens or an error where no datum begins. -/
theorem ofTokens_sound (toks : List Token) :
    ∃ done rest, toks = done ++ rest ∧ Data done (ofTokens toks).forms ∧
      ((ofTokens toks).failure = none ∧ rest = [] ∨
        ∃ e, (ofTokens toks).failure = some e ∧ IsReadingFailure e ∧ Stuck rest) := by
  fun_induction ofTokens toks with
  | case1 toks e rest hform =>
    exact ⟨[], toks, rfl, .nil, Or.inr ⟨e, rfl, isReadingFailure_of_resume hform,
      stuck_of_form hform⟩⟩
  | case2 toks rest hform =>
    obtain ⟨-, rfl⟩ := nil_of_resume .nil hform
    exact ⟨[], [], rfl, .nil, Or.inl ⟨rfl, rfl⟩⟩
  | case3 toks x rest hform others ih =>
    obtain ⟨used, rfl, hused⟩ := datum_of_form hform
    obtain ⟨done, left, hsplit, hdone, hend⟩ := ih
    refine ⟨used ++ done, left, ?_, .cons hused hdone, hend⟩
    rw [hsplit, List.append_assoc]

/-- Tokens that are read to their end are the tokens of data. -/
theorem data_of_failure_eq_none {toks : List Token} (h : (ofTokens toks).failure = none) :
    Data toks (ofTokens toks).forms := by
  obtain ⟨done, rest, htoks, hdata, ⟨-, rfl⟩ | ⟨e, he, -⟩⟩ := ofTokens_sound toks
  · rw [List.append_nil] at htoks
    exact htoks.symm ▸ hdata
  · rw [h] at he
    cases he

/-- Data alone are read as the forms that they denote, without an error. -/
theorem Data.ofTokens_eq {toks : List Token} {xs : List Sexp} (h : Data toks xs) :
    ofTokens toks = ⟨xs, none, []⟩ := by
  have hread := h.ofTokens_append []
  have hend : ofTokens [] = ⟨[], none, []⟩ := by
    rw [ofTokens]
    rfl
  rw [hend, List.append_nil, List.append_nil] at hread
  exact hread

/-- The reader accepts exactly its grammar. Every atom text is a datum; the forms before the end or
    the first error are those of the data in front, and an error comes where no datum begins; and all
    data are read back. -/
theorem ofTokens_accepts_grammar :
    (∀ text, IsAtomText text → ∃ a, readAtom text = .ok a ∧ Datum [⟨.atom, text⟩] (.atom a)) ∧
      (∀ toks, ∃ done rest, toks = done ++ rest ∧ Data done (ofTokens toks).forms ∧
        ((ofTokens toks).failure = none ∧ rest = [] ∨
          ∃ e, (ofTokens toks).failure = some e ∧ (e.kind = .reading ∨ e.kind = .malformed) ∧
            rest ≠ [] ∧ ∀ first x, first <+: rest → ¬ Datum first x)) ∧
      ∀ toks xs, Data toks xs → (ofTokens toks).forms = xs ∧ (ofTokens toks).failure = none := by
  refine ⟨?_, ofTokens_sound, ?_⟩
  · intro text h
    obtain ⟨a, ha⟩ := readAtom_of_isAtomText h
    exact ⟨a, ha, .atom h ha⟩
  · intro toks xs h
    rw [h.ofTokens_eq]
    exact ⟨rfl, rfl⟩

/-- The tokens of `'(nil)` are one datum, and are read as the quotation of a list with `NIL`. -/
theorem ofTokens_accepts_grammar_quotation :
    let toks : List Token :=
      [⟨.quote, "'"⟩, ⟨.lparen, "("⟩, ⟨.atom, "nil"⟩, ⟨.rparen, ")"⟩]
    Data toks [quotation (.list .nil [])] ∧
      (ofTokens toks).forms = [quotation (.list .nil [])] ∧ (ofTokens toks).failure = none := by
  intro toks
  have hupper : Text.upper "nil" = "NIL" := by decide +kernel
  have hatom : Datum [⟨.atom, "nil"⟩] .nil := by
    refine .atom (Or.inr (Or.inr (Or.inl hupper))) ?_
    rw [readAtom, if_pos hupper]
  have hdatum : Datum toks (quotation (.list .nil [])) := .quote (.list (.cons hatom .nil))
  have hdata : Data toks [quotation (.list .nil [])] := .cons hdatum .nil
  exact ⟨hdata, ofTokens_accepts_grammar.2.2 toks _ hdata⟩

end MiniLisp.Reading
