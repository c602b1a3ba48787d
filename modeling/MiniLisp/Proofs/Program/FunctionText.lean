import MiniLisp.Proofs.Evaluation.Rules
import MiniLisp.Proofs.Reading.Equality

/-! # The text of an anonymous function

An anonymous function is shown by a word, its formals between parentheses and its body. This is not
the text of an expression: without formals it has `()` where expressions have `NIL`. It is read as the
form of the function all the same, and what that form registers cannot be told from the function. -/

namespace MiniLisp

/-! ## Lists between parentheses -/

namespace Sexp

open Token (ofChars)

/-- The texts of expressions between parentheses, which are there without expressions too. -/
def listText (xs : List Sexp) : String := "(" ++ " ".intercalate (xs.map render) ++ ")"

/-- The tokens of expressions between parentheses. -/
def listTokens (xs : List Sexp) : List Token :=
  ⟨.lparen, "("⟩ :: (tokensOfAll xs ++ [⟨.rparen, ")"⟩])

theorem toList_intercalate_append (x : Sexp) (xs : List Sexp) :
    (" ".intercalate ((x :: xs).map render)).toList ++ [')'] = x.chars ++ tailChars xs := by
  induction xs generalizing x with
  | nil => simp [render, tailChars]
  | cons y ys ih =>
    have hrest := ih y
    simp only [List.map_cons] at hrest ⊢
    rw [String.intercalate_cons_cons]
    simp [tailChars, render, ← hrest]

theorem ofChars_listText_append (xs : List Sexp) (rest : List Char) :
    ofChars ((listText xs).toList ++ rest) = listTokens xs ++ ofChars rest := by
  cases xs with
  | nil => simp [listText, listTokens, tokensOfAll, Token.ofChars_lparen, Token.ofChars_rparen]
  | cons x xs =>
    have hchars : (listText (x :: xs)).toList ++ rest =
        '(' :: (x.chars ++ (tailChars xs ++ rest)) := by
      rw [← List.append_assoc, ← toList_intercalate_append]
      simp [listText]
    rw [hchars, Token.ofChars_lparen, ofChars_chars_append x _ (endsAtom_tailChars xs rest),
      ofChars_tailChars_append]
    simp [listTokens, tokensOfAll]

/-! ## Symbols and lists -/

/-- A symbol is shown by its name, and has no plus to lose. -/
theorem render_of_symbol? {x : Sexp} {name : String} (h : x.symbol? = some name) :
    x.render = name ∧ x.unsigned = x := by
  obtain ⟨a, rfl, hsymbol, rfl⟩ := symbol?_eq_some h
  have htext : a.text = a.lit := by rw [a.text_eq_bareLit, Atom.bareLit_of_isSymbol hsymbol]
  refine ⟨?_, ?_⟩
  · rw [render, chars, String.ofList_toList, htext]
  · have hsame : a.unsigned = a := Atom.ext_lit htext
    rw [unsigned, hsame]

theorem map_render_of_symbols {xs : List Sexp} {names : List String}
    (h : xs.map symbol? = names.map some) : xs.map render = names ∧ unsignedAll xs = xs := by
  induction xs generalizing names with
  | nil =>
    cases names with
    | nil => exact ⟨rfl, rfl⟩
    | cons name names => cases h
  | cons x xs ih =>
    cases names with
    | nil => cases h
    | cons name names =>
      obtain ⟨hhead, htail⟩ := List.cons.inj h
      obtain ⟨hrender, hunsigned⟩ := render_of_symbol? hhead
      obtain ⟨hrenders, hunsigneds⟩ := ih htail
      exact ⟨by rw [List.map_cons, hrender, hrenders], by rw [unsignedAll, hunsigned, hunsigneds]⟩

theorem isListOrNil_unsigned {x : Sexp} (h : x.isListOrNil = true) :
    x.unsigned.isListOrNil = true := by
  cases x with
  | atom a =>
    have hnil : (atom a).isNil = true := by simpa [isListOrNil, isList] using h
    rw [isNil_iff.1 hnil]
    decide
  | list head tail => rfl

theorem Readable.items {x : Sexp} (h : x.Readable) : ∀ y ∈ x.items, y.Readable := by
  cases x with
  | atom a => nofun
  | list head tail => exact readable_list.1 h

end Sexp

/-! ## The form of a function -/

namespace Function

variable {formals body : Sexp} {fn : Function}

/-- The word in front of the text of an anonymous function. -/
def word : Atom := ⟨"lambda", by decide⟩

/-- An anonymous function is shown by the word, its formals between parentheses and its body. -/
theorem toList_render (h : make .anonymous formals body = .ok fn) :
    ∃ text, fn.render = .ok text ∧
      text.toList = '(' :: ((Sexp.atom word).chars ++ ' ' :: ((Sexp.listText formals.items).toList ++
        ' ' :: (body.chars ++ [')']))) := by
  obtain ⟨horigin, rfl, rfl, hnames⟩ := make_eq_ok h
  obtain ⟨hparams, -⟩ := Sexp.map_render_of_symbols hnames
  refine ⟨_, by rw [render, label, horigin]; rfl, ?_⟩
  have hword : (Sexp.atom word).chars = "lambda".toList := by decide
  simp [hword, Sexp.listText, hparams, Sexp.render]

/-- The tokens that show an anonymous function. -/
def tokens (formals body : Sexp) : List Token :=
  ⟨.lparen, "("⟩ :: ((Sexp.atom word).tokens ++ (Sexp.listTokens formals.items ++ body.tokens) ++
    [⟨.rparen, ")"⟩])

theorem lex_render (h : make .anonymous formals body = .ok fn) :
    ∃ text, fn.render = .ok text ∧ Token.lex text = tokens formals body := by
  obtain ⟨text, hrender, hchars⟩ := toList_render h
  have hblank : Text.isBlank ' ' = true := by decide
  have hspace : ∀ rest, Token.EndsAtom (' ' :: rest) := by
    rintro rest c ⟨⟩
    decide
  have hclose : Token.EndsAtom [')'] := by
    rintro c ⟨⟩
    decide
  refine ⟨text, hrender, ?_⟩
  rw [Token.lex, hchars, Token.ofChars_lparen, Sexp.ofChars_chars_append _ _ (hspace _),
    Token.ofChars_blank hblank, Sexp.ofChars_listText_append, Token.ofChars_blank hblank,
    Sexp.ofChars_chars_append _ _ hclose, Token.ofChars_rparen, Token.ofChars_nil]
  simp [tokens]

/-- Accepted formals are a datum between parentheses, also where there are none. -/
theorem datum_listTokens (h : make .anonymous formals body = .ok fn) (hformals : formals.Readable) :
    Reading.Datum (Sexp.listTokens formals.items) formals := by
  obtain ⟨-, -, -, hnames⟩ := make_eq_ok h
  obtain ⟨-, hunsigned⟩ := Sexp.map_render_of_symbols hnames
  -- symbols have no pluses, so reading gives the formals themselves
  have hdata := Reading.data_tokensOfAll formals.items hformals.items
  rw [hunsigned] at hdata
  have hdatum : Reading.Datum (Sexp.listTokens formals.items) (.ofList formals.items) := .list hdata
  rwa [Sexp.ofList_items (make_eq_ok_lists h).1] at hdatum

/-- The text of an anonymous function is read as a form with the same formals, and with the same body
    but for pluses. -/
theorem readOne_render (h : make .anonymous formals body = .ok fn) (hformals : formals.Readable)
    (hbody : body.Readable) :
    ∃ text, fn.render = .ok text ∧
      readOne text = .ok (.list (.atom word) [formals, body.unsigned]) := by
  obtain ⟨text, hrender, hlex⟩ := lex_render h
  have hword : Reading.Datum (Sexp.atom word).tokens (.atom word) := by
    have hreadable : (Sexp.atom word).Readable := by decide
    have hsame : word.unsigned = word := Atom.ext_lit (by decide)
    have hdatum := Reading.datum_tokens _ hreadable
    rwa [Sexp.unsigned, hsame] at hdatum
  have hlast : Reading.Data body.tokens [body.unsigned] := by
    have hdata := Reading.Data.cons (Reading.datum_tokens body hbody) .nil
    rwa [List.append_nil] at hdata
  have hdatum : Reading.Datum (tokens formals body)
      (.ofList [.atom word, formals, body.unsigned]) :=
    .list (.cons hword (.cons (datum_listTokens h hformals) hlast))
  have hform := hdatum.form_append []
  rw [List.append_nil] at hform
  refine ⟨text, hrender, ?_⟩
  rw [readOne, hlex, hform]
  rfl

/-- The form of an anonymous function registers it. -/
theorem evaluates_form (h : make .anonymous formals body = .ok fn) (m : Machine) :
    ∃ m', Evaluates (.list (.atom word) [formals, body]) m
        (.ok (.list (.atom .lambda) [formals, body])) m' ∧ m'.env = m.env.addLambda fn := by
  have htarget : m.env.target? word.lit = some (.special .lambda) :=
    Environment.target?_eq_special_iff.2 (by decide)
  have hrun := evaluate_named (by decide) htarget 0 [formals, body]
  rw [applyTarget, SpecialForm.evaluate, SpecialForm.evaluateLambda_pair, Eval.run_bind,
    Eval.registerLambda_run, h] at hrun
  exact ⟨_, ⟨1, hrun⟩, rfl⟩

/-- Whether formals are accepted does not depend on the body. -/
theorem make_with_body (h : make .anonymous formals body = .ok fn) {body' : Sexp}
    (hbody' : body'.isListOrNil = true) :
    make .anonymous formals body' = .ok { fn with body := body' } := by
  obtain ⟨hformals, -, hparams⟩ := make_eq_ok_lists h
  obtain ⟨horigin, rfl, -, -⟩ := make_eq_ok h
  rw [make, hformals, hbody', hparams, horigin]
  rfl

/-- The text of an anonymous function reads as one form, if the symbols of its formals and body are
    not other spellings of `NIL` and `T`. On every machine the evaluation of the form gives the form
    of an anonymous function, and registers a function with the same names and an equal body, which
    is found under the formals of the first. -/
theorem render_denotes_function (h : make .anonymous formals body = .ok fn)
    (hformals : formals.Readable) (hbody : body.Readable) :
    ∃ text x, fn.render = .ok text ∧ readOne text = .ok x ∧
      ∀ m : Machine, ∃ v fn' m', Evaluates x m (.ok v) m' ∧ v.isLambdaForm = true ∧
        m'.env = m.env.addLambda fn' ∧ m'.env.lambdaFor fn.formals = .ok fn' ∧
        fn'.origin = .anonymous ∧ fn'.params = fn.params ∧ (fn'.body == fn.body) = true ∧
        (fn'.formals == fn.formals) = true := by
  obtain ⟨text, hrender, hread⟩ := readOne_render h hformals hbody
  obtain ⟨-, hlist, -⟩ := make_eq_ok_lists h
  have hmake := make_with_body h (Sexp.isListOrNil_unsigned hlist)
  obtain ⟨horigin, -, rfl, -⟩ := make_eq_ok h
  refine ⟨text, _, hrender, hread, fun m => ?_⟩
  obtain ⟨m', heval, henv⟩ := evaluates_form hmake m
  have hlambda : (Sexp.list (.atom .lambda) [formals, fn.body.unsigned]).isLambdaForm = true :=
    Sexp.isLambdaForm_iff_exists.2 ⟨.lambda, formals, _, rfl, by decide +kernel⟩
  have hfound : m'.env.lambdaFor fn.formals = .ok { fn with body := fn.body.unsigned } := by
    simp [henv, Environment.lambdaFor, Environment.addLambda, Table.get?_insert]
  have hequal : (fn.body.unsigned == fn.body) = true := by
    show (fn.body.unsigned.render == fn.body.render) = true
    rw [Sexp.render, Sexp.chars_unsigned, Sexp.render, beq_self_eq_true]
  exact ⟨_, _, m', heval, hlambda, henv, hfound, horigin, rfl, hequal, Sexp.beq_self _⟩

/-- `(lambda () (PLUS 5 NIL))` shows a function without formals whose body has a plus in it, on a
    machine that has another function for no formals. -/
theorem render_denotes_function_without_formals :
    let body : Sexp := .list (.atom ⟨"PLUS", by decide⟩) [.atom ⟨"+5", by decide⟩, .nil]
    let fn : Function := ⟨.anonymous, [], .nil, body⟩
    let m : Machine := { env := { lambdas := Table.ofList [("NIL", ⟨.anonymous, [], .nil, .nil⟩)] } }
    ∃ x, fn.render = .ok "(lambda () (PLUS 5 NIL))" ∧
      readOne "(lambda () (PLUS 5 NIL))" = .ok x ∧
      ∃ v fn' m', Evaluates x m (.ok v) m' ∧ v.isLambdaForm = true ∧
        m'.env.lambdaFor .nil = .ok fn' ∧ fn'.params = [] ∧ (fn'.body == body) = true := by
  intro body fn m
  have hmake : make .anonymous .nil body = .ok fn := rfl
  have htext : fn.render = .ok "(lambda () (PLUS 5 NIL))" := by
    rw [render]
    exact congrArg Except.ok (by decide +kernel)
  obtain ⟨text, x, hrender, hread, hevaluates⟩ :=
    render_denotes_function hmake (by decide +kernel) (by decide +kernel)
  rw [htext] at hrender
  cases hrender
  obtain ⟨v, fn', m', heval, hlambda, -, hfound, -, hparams, hbody, -⟩ := hevaluates m
  exact ⟨x, htext, hread, v, fn', m', heval, hlambda, hfound, hparams, hbody⟩

end Function

end MiniLisp
