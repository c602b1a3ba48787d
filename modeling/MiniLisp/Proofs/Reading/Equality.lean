import Mathlib.Data.List.Forall2
import MiniLisp.Proofs.Environment
import MiniLisp.Proofs.Reading.RoundTrip

/-! # Equality of expressions

Expressions are compared by their texts, and anonymous functions are kept under the texts of their
formals. Neither can confuse two expressions: the tokens of an expression are a prefix code, so the
text determines the nesting, and with it every atom but for the pluses in front of integers. -/

namespace MiniLisp

/-! ## The same tree -/

/-- The literal of an atom, less the plus in front of an integer. -/
def Atom.bareLit (a : Atom) : String :=
  if a.isInt = true ∧ a.lit.toList.head? = some '+' then String.ofList a.lit.toList.tail else a.lit

namespace Sexp

/-- The expressions have the same shape, and atoms in the same places have the same literals but for
    pluses in front of integers. -/
inductive SameTree : Sexp → Sexp → Prop where
  | atom {a b : Atom} (bareLit : a.bareLit = b.bareLit) : SameTree (.atom a) (.atom b)
  | list {x y : Sexp} {xs ys : List Sexp} (head : SameTree x y)
      (tail : List.Forall₂ SameTree xs ys) : SameTree (.list x xs) (.list y ys)

/-- Equality as the expression on the left decides it: an atom accepts only atoms with its text, and
    a list accepts everything with its text. -/
def accepts : Sexp → Sexp → Bool
  | .atom a, .atom b => a.text == b.text
  | .atom _, .list _ _ => false
  | .list head tail, y => (Sexp.list head tail).render == y.render

end Sexp

/-! ## Atoms -/

namespace Atom

theorem isInt_of_plus {a : Atom} {cs : List Char} (h : a.lit.toList = '+' :: cs) :
    a.isInt = true := by
  rcases a.isSymbolLiteral_or_isInt with hsymbol | hint
  · obtain ⟨-, d, ds, hlist, hword⟩ := text_of_isSymbolLiteral hsymbol
    rw [h] at hlist
    cases hlist
    exact absurd (hword '+' List.mem_cons_self) (by decide)
  · exact hint

/-- An atom is shown by its literal, less the plus in front of an integer. -/
theorem text_eq_bareLit (a : Atom) : a.text = a.bareLit := by
  cases hlist : a.lit.toList with
  | nil =>
    rw [bareLit, hlist, if_neg (by simp), text.eq_def, hlist]
  | cons c cs =>
    by_cases hc : c = '+'
    · subst hc
      rw [text_of_plus hlist, bareLit, hlist, if_pos ⟨isInt_of_plus hlist, rfl⟩, List.tail_cons]
    · rw [text_of_toList hlist hc, bareLit, hlist, if_neg (by simp [hc])]

theorem bareLit_of_isSymbol {a : Atom} (h : a.isSymbol = true) : a.bareLit = a.lit := by
  have hint : a.isInt = false := by simpa [isSymbol] using h
  rw [bareLit, if_neg (by simp [hint])]

end Atom

/-! ## Tokens are a prefix code -/

namespace Sexp

open List (Forall₂)

/-- No expression begins with a closing parenthesis. -/
theorem tokens_append_ne_rparen (x : Sexp) (rest rest' : List Token) :
    x.tokens ++ rest ≠ ⟨.rparen, ")"⟩ :: rest' := by
  cases x with
  | atom a => simp [tokens]
  | list head tail => simp [tokens]

mutual

/-- The tokens of an expression determine it and where it ends, whatever follows. -/
theorem sameTree_of_tokens_append : ∀ (x y : Sexp) {rest rest' : List Token},
    x.tokens ++ rest = y.tokens ++ rest' → SameTree x y ∧ rest = rest'
  | .atom a, .atom b, rest, rest', h => by
    simp only [tokens, List.cons_append, List.nil_append, List.cons.injEq, Token.mk.injEq,
      true_and] at h
    refine ⟨.atom ?_, h.2⟩
    rw [← a.text_eq_bareLit, ← b.text_eq_bareLit, h.1]
  | .atom a, .list y ys, rest, rest', h => by simp [tokens] at h
  | .list x xs, .atom b, rest, rest', h => by simp [tokens] at h
  | .list x xs, .list y ys, rest, rest', h => by
    simp only [tokens, List.cons_append, List.append_assoc, List.nil_append, List.cons.injEq,
      true_and] at h
    obtain ⟨hhead, htail⟩ := sameTree_of_tokens_append x y h
    obtain ⟨hall, hrest⟩ := sameTrees_of_tokens_append xs ys htail
    exact ⟨.list hhead hall, hrest⟩

theorem sameTrees_of_tokens_append : ∀ (xs ys : List Sexp) {rest rest' : List Token},
    tokensOfAll xs ++ ⟨.rparen, ")"⟩ :: rest = tokensOfAll ys ++ ⟨.rparen, ")"⟩ :: rest' →
      Forall₂ SameTree xs ys ∧ rest = rest'
  | [], [], rest, rest', h => ⟨.nil, (List.cons.inj h).2⟩
  | [], y :: ys, rest, rest', h => by
    rw [tokensOfAll, tokensOfAll, List.nil_append, List.append_assoc] at h
    exact absurd h.symm (tokens_append_ne_rparen y _ _)
  | x :: xs, [], rest, rest', h => by
    rw [tokensOfAll, tokensOfAll, List.nil_append, List.append_assoc] at h
    exact absurd h (tokens_append_ne_rparen x _ _)
  | x :: xs, y :: ys, rest, rest', h => by
    rw [tokensOfAll, tokensOfAll, List.append_assoc, List.append_assoc] at h
    obtain ⟨hhead, htail⟩ := sameTree_of_tokens_append x y h
    obtain ⟨hall, hrest⟩ := sameTrees_of_tokens_append xs ys htail
    exact ⟨.cons hhead hall, hrest⟩

end

mutual

theorem SameTree.chars_eq : ∀ {x y : Sexp}, SameTree x y → x.chars = y.chars
  | .atom a, .atom b, .atom h => by rw [chars, chars, a.text_eq_bareLit, b.text_eq_bareLit, h]
  | .list x xs, .list y ys, .list hhead htail => by
    rw [chars, chars, hhead.chars_eq, tailChars_eq_of_sameTrees htail]

theorem tailChars_eq_of_sameTrees : ∀ {xs ys : List Sexp}, Forall₂ SameTree xs ys →
    tailChars xs = tailChars ys
  | [], [], .nil => rfl
  | x :: xs, y :: ys, .cons hhead htail => by
    rw [tailChars, tailChars, hhead.chars_eq, tailChars_eq_of_sameTrees htail]

end

/-- Expressions look alike exactly if they are the same tree. -/
theorem render_eq_iff {x y : Sexp} : x.render = y.render ↔ SameTree x y := by
  constructor
  · intro h
    have htokens : x.tokens ++ [] = y.tokens ++ [] := by rw [← lex_render, ← lex_render, h]
    exact (sameTree_of_tokens_append x y htokens).1
  · intro h
    rw [render, render, h.chars_eq]

theorem accepts_iff {x y : Sexp} : x.accepts y = true ↔ SameTree x y := by
  cases x with
  | atom a =>
    cases y with
    | atom b =>
      rw [accepts, beq_iff_eq, a.text_eq_bareLit, b.text_eq_bareLit]
      exact ⟨.atom, fun | .atom h => h⟩
    | list head tail => exact ⟨nofun, nofun⟩
  | list head tail => rw [accepts, beq_iff_eq, render_eq_iff]

theorem beq_iff_sameTree {x y : Sexp} : (x == y) = true ↔ SameTree x y := by
  show (x.render == y.render) = true ↔ SameTree x y
  rw [beq_iff_eq, render_eq_iff]

theorem sameTree_comm {x y : Sexp} : SameTree x y ↔ SameTree y x := by
  rw [← render_eq_iff, ← render_eq_iff, eq_comm]

/-! ## Formals -/

theorem SameTree.items {x y : Sexp} (h : SameTree x y) : Forall₂ SameTree x.items y.items := by
  cases h with
  | atom _ => exact .nil
  | list head tail => exact .cons head tail

/-- Symbols that are the same trees are the same. -/
theorem eq_of_sameTrees {xs ys : List Sexp} (h : Forall₂ SameTree xs ys)
    (hxs : ∀ x ∈ xs, ∃ name, x.symbol? = some name) (hys : ∀ y ∈ ys, ∃ name, y.symbol? = some name) :
    xs = ys := by
  induction h with
  | nil => rfl
  | @cons x y xs ys hhead _ ih =>
    obtain ⟨name, hname⟩ := hxs x List.mem_cons_self
    obtain ⟨name', hname'⟩ := hys y List.mem_cons_self
    obtain ⟨a, rfl, ha, -⟩ := symbol?_eq_some hname
    obtain ⟨b, rfl, hb, -⟩ := symbol?_eq_some hname'
    cases hhead with
    | atom hlit =>
      rw [Atom.bareLit_of_isSymbol ha, Atom.bareLit_of_isSymbol hb] at hlit
      have htail := ih (fun x hx => hxs x (List.mem_cons_of_mem _ hx))
        (fun y hy => hys y (List.mem_cons_of_mem _ hy))
      rw [Atom.ext_lit hlit, htail]

end Sexp

namespace Function

variable {origin origin' : Origin} {formals formals' body body' : Sexp} {fn fn' : Function}

theorem symbol?_of_mem_formals (h : make origin formals body = .ok fn) :
    ∀ x ∈ formals.items, ∃ name, x.symbol? = some name := by
  intro x hx
  obtain ⟨-, -, -, hnames⟩ := make_eq_ok h
  have hmem : x.symbol? ∈ fn.params.map some := hnames ▸ List.mem_map_of_mem hx
  obtain ⟨name, -, hname⟩ := List.mem_map.1 hmem
  exact ⟨name, hname.symm⟩

/-- Accepted formals that are the same tree are the same. -/
theorem formals_eq_of_sameTree (h : make origin formals body = .ok fn)
    (h' : make origin' formals' body' = .ok fn') (hsame : formals.SameTree formals') :
    formals = formals' := by
  have hitems : formals.items = formals'.items :=
    Sexp.eq_of_sameTrees hsame.items (symbol?_of_mem_formals h) (symbol?_of_mem_formals h')
  rw [← Sexp.ofList_items (make_eq_ok_lists h).1, hitems, Sexp.ofList_items (make_eq_ok_lists h').1]

end Function

/-- An anonymous function is found by formals that are the same tree as its own, and does not hide
    other functions. -/
theorem Environment.lambdaFor_addLambda (env : Environment) (fn : Function) (formals : Sexp) :
    (fn.formals.SameTree formals → (env.addLambda fn).lambdaFor formals = .ok fn) ∧
      (¬ fn.formals.SameTree formals →
        (env.addLambda fn).lambdaFor formals = env.lambdaFor formals) := by
  rw [← Sexp.render_eq_iff, lambdaFor, addLambda, Table.get?_insert]
  refine ⟨fun h => ?_, fun h => ?_⟩
  · rw [if_pos h]
  · rw [if_neg h]
    rfl

/-- Two expressions are equal exactly if they have the same shape and the same literals in the same
    places, but for pluses in front of integers; whether they are compared by their texts, by the one
    on either side, or as keys of anonymous functions. So two different lists of formals, both of
    which are accepted, never stand for the same anonymous function. -/
theorem equality_is_structural (x y : Sexp) :
    ((x == y) = true ↔ x.SameTree y) ∧ ((y == x) = true ↔ x.SameTree y) ∧
    (x.accepts y = true ↔ x.SameTree y) ∧ (y.accepts x = true ↔ x.SameTree y) ∧
    (∀ (env : Environment) (fn : Function), fn.formals = x →
      (x.SameTree y → (env.addLambda fn).lambdaFor y = .ok fn) ∧
        (¬ x.SameTree y → (env.addLambda fn).lambdaFor y = env.lambdaFor y)) ∧
    ∀ (env : Environment) (body body' : Sexp) (fn fn' : Function),
      Function.make .anonymous x body = .ok fn → Function.make .anonymous y body' = .ok fn' →
      x ≠ y → (x == y) = false ∧ (env.addLambda fn).lambdaFor y = env.lambdaFor y := by
  have hbeq : (x == y) = true ↔ x.SameTree y := Sexp.beq_iff_sameTree
  refine ⟨hbeq, ?_, Sexp.accepts_iff, ?_, ?_, ?_⟩
  · rw [Sexp.sameTree_comm]
    exact Sexp.beq_iff_sameTree
  · rw [Sexp.sameTree_comm]
    exact Sexp.accepts_iff
  · rintro env fn rfl
    exact env.lambdaFor_addLambda fn y
  · intro env body body' fn fn' hmake hmake' hne
    have hother : ¬ x.SameTree y := fun hsame =>
      hne (Function.formals_eq_of_sameTree hmake hmake' hsame)
    obtain ⟨-, hformals, -, -⟩ := Function.make_eq_ok hmake
    subst hformals
    exact ⟨Bool.eq_false_iff.2 (mt hbeq.1 hother), (env.lambdaFor_addLambda fn y).2 hother⟩

/-- `(+5 (A NIL))` is equal to `(5 (A NIL))` and not to `((5 A) NIL)`, and a function with the formals
    `(A B)` does not take the place of one with the formals `(AB)`. -/
theorem equality_is_structural_nested :
    let a : Sexp := .atom ⟨"A", by decide⟩
    let five : Sexp := .atom ⟨"5", by decide⟩
    let plus : Sexp := .atom ⟨"+5", by decide⟩
    let x : Sexp := .list plus [.list a [.nil]]
    let y : Sexp := .list five [.list a [.nil]]
    let z : Sexp := .list (.list five [a]) [.nil]
    let p : Sexp := .list a [.atom ⟨"B", by decide⟩]
    let q : Sexp := .list (.atom ⟨"AB", by decide⟩) []
    let fn : Function := ⟨.anonymous, ["A", "B"], p, .nil⟩
    let fn' : Function := ⟨.anonymous, ["AB"], q, .nil⟩
    (x == y) = true ∧ y.accepts x = true ∧ (x == z) = false ∧
      Function.make .anonymous p .nil = .ok fn ∧ Function.make .anonymous q .nil = .ok fn' ∧
      ((({} : Environment).addLambda fn').addLambda fn).lambdaFor q = .ok fn' := by
  intro a five plus x y z p q fn fn'
  have hxy : x.SameTree y :=
    .list (.atom (by decide)) (.cons (.list (.atom rfl) (.cons (.atom rfl) .nil)) .nil)
  have hxz : ¬ x.SameTree z := by
    show ¬ Sexp.SameTree (.list (.atom _) _) (.list (.list _ _) _)
    rintro (_ | ⟨head, -⟩)
    cases head
  have hpq : p ≠ q := by
    intro heq
    injection heq with _ htail
    cases htail
  have hmake : Function.make .anonymous p .nil = .ok fn := rfl
  have hmake' : Function.make .anonymous q .nil = .ok fn' := rfl
  refine ⟨(equality_is_structural x y).1.2 hxy, (equality_is_structural x y).2.2.2.1.2 hxy,
    Bool.eq_false_iff.2 (mt (equality_is_structural x z).1.1 hxz), hmake, hmake', ?_⟩
  rw [((equality_is_structural p q).2.2.2.2.2 _ _ _ _ _ hmake hmake' hpq).2]
  exact ((equality_is_structural q q).2.2.2.2.1 _ fn' rfl).1 (.list (.atom rfl) .nil)

end MiniLisp
