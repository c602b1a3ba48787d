import MiniLisp.Sexp.Build
import MiniLisp.Text.Case.Upper
import MiniLisp.Token

/-! # Reading

Tokens become expressions one form at a time. What is open while a form is being read is a stack of
frames; a token pushes a frame, fills the topmost one or completes it. A form that fails leaves the
tokens that it did not take. -/

namespace MiniLisp

/-- The atom that a text denotes. `nil` and `t` denote `NIL` and `T` in any case. -/
def readAtom (text : String) : Except Error Atom :=
  let name := Text.upper text
  if name = "NIL" then .ok .nil
  else if name = "T" then .ok .t
  else Atom.ofText text

namespace Reading

/-- Something begun and not yet complete. -/
inductive Frame where
  /-- A quote mark that waits for its form. -/
  | quote
  /-- A list that waits for its end, with the elements so far in reverse order. -/
  | list (items : List Sexp)

/-- The list that a quote mark and a form stand for. -/
def quotation (x : Sexp) : Sexp := .list (.atom .quote) [x]

/-- Builds the list that a quote mark and a form stand for, from its end. -/
def buildQuotation (x : Sexp) : Except Error Sexp := do
  let tail ← Sexp.cons (.sexp x) (.sexp .nil)
  Sexp.cons (.sexp (.atom .quote)) (.sexp tail)

theorem buildQuotation_eq_ok (x : Sexp) : buildQuotation x = .ok (quotation x) := rfl

/-- What one token leads to. -/
inductive Move where
  /-- The form is complete. -/
  | done (x : Sexp)
  /-- The form goes on with these frames open. -/
  | more (stack : List Frame)
  /-- The token is taken, and is wrong. -/
  | fail (e : Error)
  /-- The token is wrong, and is left where it is. -/
  | refuse (e : Error)

/-- What a complete form leads to: it answers the quote marks that wait for it, and joins the list
    around it if there is one. -/
def complete (x : Sexp) : List Frame → Move
  | [] => .done x
  | .quote :: stack =>
    match buildQuotation x with
    | .error e => .fail e
    | .ok y => complete y stack
  | .list items :: stack => .more (.list (x :: items) :: stack)

theorem complete_quote (x : Sexp) (stack : List Frame) :
    complete x (.quote :: stack) = complete (quotation x) stack := by
  rw [complete, buildQuotation_eq_ok]

/-- What a closing parenthesis leads to. -/
def close : List Frame → Move
  | [] => .refuse .strayClose
  | .quote :: _ => .refuse .strayClose
  | .list items :: stack => complete (Sexp.ofList items.reverse) stack

/-- What a token leads to when the given frames are open. -/
def take (stack : List Frame) (tok : Token) : Move :=
  match tok.kind with
  | .atom =>
    match readAtom tok.text with
    | .error e => .fail e
    | .ok a => complete (.atom a) stack
  | .quote => .more (.quote :: stack)
  | .lparen => .more (.list [] :: stack)
  | .rparen => close stack
  | .unknown name => .refuse (.unknownToken name tok.text)

/-- The outcome of reading one form: the form, none at the end of the tokens, or an error; and the
    tokens that are left. -/
abbrev Step := Except Error (Option Sexp) × List Token

/-- The outcome when the tokens end. -/
def finish : List Frame → Except Error (Option Sexp)
  | [] => .ok none
  | .quote :: _ => .error .nothingQuoted
  | .list _ :: _ => .error .unclosedList

/-- Reads on with the given frames open. -/
def resume (stack : List Frame) : List Token → Step
  | [] => (finish stack, [])
  | tok :: toks =>
    match take stack tok with
    | .done x => (.ok (some x), toks)
    | .more stack => resume stack toks
    | .fail e => (.error e, toks)
    | .refuse e => (.error e, tok :: toks)

/-- Reads one form. -/
def form (toks : List Token) : Step := resume [] toks

/-- A form that was read took at least one token. -/
theorem length_lt_of_resume {stack : List Frame} {toks rest : List Token} {x : Sexp}
    (h : resume stack toks = (.ok (some x), rest)) : rest.length < toks.length := by
  induction toks generalizing stack with
  | nil =>
    cases stack with
    | nil => simp [resume, finish] at h
    | cons f _ => cases f <;> simp [resume, finish] at h
  | cons tok toks ih =>
    rw [resume] at h
    split at h
    · simp only [Prod.mk.injEq] at h
      simp [← h.2]
    · exact Nat.lt_succ_of_lt (ih h)
    · simp at h
    · simp at h

end Reading

/-- What reading all forms gives: the forms, the error that ended it if there was one, and the
    tokens that are left. -/
structure Reading where
  forms : List Sexp
  failure : Option Error
  rest : List Token

namespace Reading

/-- Reads forms up to the end of the tokens or the first error. -/
def ofTokens (toks : List Token) : Reading :=
  match _h : form toks with
  | (.error e, rest) => ⟨[], some e, rest⟩
  | (.ok none, rest) => ⟨[], none, rest⟩
  | (.ok (some x), rest) =>
    let others := ofTokens rest
    ⟨x :: others.forms, others.failure, others.rest⟩
termination_by toks.length
decreasing_by exact length_lt_of_resume _h

/-- Reading ends where no form can be read. -/
theorem ofTokens_of_end {toks rest : List Token} {r : Except Error (Option Sexp)}
    (h : form toks = (r, rest)) (hend : ∀ x, r ≠ .ok (some x)) :
    ofTokens toks = ⟨[], match r with | .error e => some e | .ok _ => none, rest⟩ := by
  rw [ofTokens]
  split
  · next heq => rw [h] at heq; cases heq; rfl
  · next heq => rw [h] at heq; cases heq; rfl
  · next heq => rw [h] at heq; cases heq; exact absurd rfl (hend _)

/-- Reading goes on after a form. -/
theorem ofTokens_of_form {toks rest : List Token} {x : Sexp} (h : form toks = (.ok (some x), rest)) :
    ofTokens toks = ⟨x :: (ofTokens rest).forms, (ofTokens rest).failure, (ofTokens rest).rest⟩ := by
  rw [ofTokens]
  split
  · next heq => rw [h] at heq; cases heq
  · next heq => rw [h] at heq; cases heq
  · next heq => rw [h] at heq; cases heq; rfl

end Reading

/-- Reads all forms of a text. -/
def read (source : String) : Reading := Reading.ofTokens (Token.lex source)

/-- Reads the first form of a text. -/
def readOne (source : String) : Except Error Sexp :=
  match (Reading.form (Token.lex source)).1 with
  | .error e => .error e
  | .ok none => .error .emptyInput
  | .ok (some x) => .ok x

end MiniLisp
