import Mathlib.Data.List.Basic
import MiniLisp.Proofs.Atom
import MiniLisp.Proofs.Editor.Index
import MiniLisp.Proofs.Reading.Grammar
import MiniLisp.Proofs.Sexp

/-! # Definitions in a text and in its forms

The index finds definitions by looking at the pieces after each opening parenthesis; in the forms that
the reader makes, a definition is a list at any depth. In a text that the reader accepts each such list
has its own opening parenthesis, and both ways lead to the same definitions in the same order. -/

namespace MiniLisp

/-! ## Definitions among forms -/

namespace Sexp

/-- The name that a list defines, if its first element is `DEFUN` in any case and its second element a
    symbol other than `NIL` and `T`. -/
def definedName? : Sexp → Option String
  | .list (.atom a) (.atom b :: _) =>
    if Text.upper a.lit = "DEFUN" && b.isSymbol && !b.isNil && !b.isTrue then some b.lit else none
  | _ => none

mutual

/-- The lists in an expression at any depth, each before its elements. -/
def lists : Sexp → List Sexp
  | .atom _ => []
  | .list head tail => .list head tail :: (head.lists ++ listsOfAll tail)

/-- The lists in several expressions. -/
def listsOfAll : List Sexp → List Sexp
  | [] => []
  | x :: xs => x.lists ++ listsOfAll xs

end

/-- The definitions in several expressions at any depth, in the order in which they are written. -/
def definitions (xs : List Sexp) : List Sexp :=
  (listsOfAll xs).filter fun x => x.definedName?.isSome

theorem definitions_cons (x : Sexp) (xs : List Sexp) :
    definitions (x :: xs) = definitions [x] ++ definitions xs := by
  simp [definitions, listsOfAll]

theorem definedName?_quotation (x : Sexp) : (Reading.quotation x).definedName? = none := by
  cases x with
  | atom b =>
    have hquote : ¬ Text.upper Atom.quote.lit = "DEFUN" := by decide
    simp [Reading.quotation, definedName?, hquote]
  | list head tail => rfl

theorem definitions_quotation (x : Sexp) :
    definitions [Reading.quotation x] = definitions [x] := by
  have hname := definedName?_quotation x
  rw [Reading.quotation] at hname
  simp [definitions, listsOfAll, Reading.quotation, lists, hname]

theorem definitions_ofList (xs : List Sexp) :
    definitions [ofList xs] =
      ([ofList xs].filter fun x => x.definedName?.isSome) ++ definitions xs := by
  cases xs with
  | nil => rfl
  | cons x xs =>
    simp only [definitions, listsOfAll, ofList, lists, List.append_nil]
    exact List.filter_append [Sexp.list x xs] _

end Sexp

/-! ## Names -/

/-- The names that the reader keeps: symbols other than the spellings of `NIL` and `T`. -/
def IsSymbolName (name : String) : Prop :=
  isSymbolLiteral name = true ∧ Text.upper name ≠ "NIL" ∧ Text.upper name ≠ "T"

instance (name : String) : Decidable (IsSymbolName name) :=
  inferInstanceAs (Decidable (_ ∧ _ ∧ _))

theorem IsSymbolName.ne {name other : String} (h : IsSymbolName name)
    (hother : isSymbolLiteral other = false) : name ≠ other := by
  rintro rfl
  rw [h.1] at hother
  cases hother

/-! ## Tokens of definitions -/

theorem Sexp.definedName?_eq_some {x : Sexp} {name : String} (h : x.definedName? = some name) :
    ∃ a b more, x = .list (.atom a) (.atom b :: more) ∧ Text.upper a.lit = "DEFUN" ∧
      b.isSymbol = true ∧ b.isNil = false ∧ b.isTrue = false ∧ b.lit = name := by
  rw [definedName?.eq_def] at h
  split at h
  · next a b more =>
    split at h
    · next hguard =>
      simp only [Bool.and_eq_true, decide_eq_true_eq, Bool.not_eq_true'] at hguard
      obtain ⟨⟨⟨hhead, hsymbol⟩, hnil⟩, ht⟩ := hguard
      exact ⟨a, b, more, rfl, hhead, hsymbol, hnil, ht, Option.some.inj h⟩
    · cases h
  · cases h

namespace Reading

/-- Any atom but the two constants is written as it is. -/
theorem Datum.tokens_eq_of_atom {toks : List Token} {a : Atom} (h : Datum toks (.atom a))
    (hnil : a ≠ .nil) (ht : a ≠ .t) :
    toks = [⟨.atom, a.lit⟩] ∧ Text.upper a.lit ≠ "NIL" ∧ Text.upper a.lit ≠ "T" := by
  generalize hx : Sexp.atom a = x at h
  cases h with
  | atom wellFormed denotes =>
    cases hx
    obtain ⟨-, rfl⟩ | ⟨-, rfl⟩ | ⟨rfl, hupper⟩ := readAtom_eq_ok denotes
    · exact absurd rfl hnil
    · exact absurd rfl ht
    · exact ⟨rfl, hupper⟩
  | quote quoted => cases hx
  | @list _ _ _ xs elements =>
    cases xs with
    | nil =>
      cases hx
      exact absurd rfl hnil
    | cons x xs => cases hx

theorem Data.uncons {toks : List Token} {x : Sexp} {xs : List Sexp} (h : Data toks (x :: xs)) :
    ∃ first rest, toks = first ++ rest ∧ Datum first x ∧ Data rest xs := by
  cases h with
  | cons head tail => exact ⟨_, _, rfl, head, tail⟩

theorem Data.uncons_atom {text : String} {rest : List Token} {xs : List Sexp}
    (h : Data (⟨.atom, text⟩ :: rest) xs) :
    ∃ a ys, xs = .atom a :: ys ∧ readAtom text = .ok a ∧ Data rest ys := by
  generalize htoks : (⟨.atom, text⟩ : Token) :: rest = toks at h
  cases h with
  | nil => cases htoks
  | cons head tail =>
    cases head with
    | atom wellFormed denotes =>
      cases htoks
      exact ⟨_, _, rfl, denotes, tail⟩
    | quote quoted => cases htoks
    | list elements => cases htoks

/-- A list that defines a name is written as a list of atoms at first: `DEFUN` in some case, and the
    name. -/
theorem Data.tokens_of_definedName? {toks : List Token} {xs : List Sexp} {name : String}
    (h : Data toks xs) (hname : (Sexp.ofList xs).definedName? = some name) :
    ∃ head rest, toks = ⟨.atom, head⟩ :: ⟨.atom, name⟩ :: rest ∧ Text.upper head = "DEFUN" ∧
      IsSymbolName name := by
  obtain ⟨a, b, more, hlist, hhead, hsymbol, hnil, ht, rfl⟩ := Sexp.definedName?_eq_some hname
  have hxs : xs = .atom a :: .atom b :: more := by
    have hitems := congrArg Sexp.items hlist
    rwa [Sexp.items_ofList] at hitems
  subst hxs
  obtain ⟨first, rest, rfl, hfirst, hrest⟩ := h.uncons
  obtain ⟨second, others, rfl, hsecond, -⟩ := hrest.uncons
  have hanil : a ≠ .nil := by
    rintro rfl
    exact absurd hhead (by decide)
  have hat : a ≠ .t := by
    rintro rfl
    exact absurd hhead (by decide)
  have hbnil : b ≠ .nil := by
    rintro rfl
    cases hnil
  have hbt : b ≠ .t := by
    rintro rfl
    cases ht
  obtain ⟨rfl, -⟩ := hfirst.tokens_eq_of_atom hanil hat
  obtain ⟨rfl, hupper⟩ := hsecond.tokens_eq_of_atom hbnil hbt
  have hliteral : isSymbolLiteral b.lit = true := by
    rcases b.isSymbolLiteral_or_isInt with hliteral | hint
    · exact hliteral
    · simp [Atom.isSymbol, hint] at hsymbol
  exact ⟨a.lit, others, rfl, hhead, hliteral, hupper⟩

/-- Data that begin with `DEFUN` in some case and a name make a list that defines the name. -/
theorem Data.definedName?_of_tokens {head name : String} {rest : List Token} {xs : List Sexp}
    (h : Data (⟨.atom, head⟩ :: ⟨.atom, name⟩ :: rest) xs) (hhead : Text.upper head = "DEFUN")
    (hname : IsSymbolName name) : (Sexp.ofList xs).definedName? = some name := by
  obtain ⟨a, ys, rfl, ha, hys⟩ := h.uncons_atom
  obtain ⟨b, zs, rfl, hb, -⟩ := hys.uncons_atom
  obtain ⟨hliteral, hnil, ht⟩ := hname
  have hheadLit : a.lit = head := by
    obtain ⟨hupper, -⟩ | ⟨hupper, -⟩ | ⟨hlit, -⟩ := readAtom_eq_ok ha
    · rw [hhead] at hupper
      exact absurd hupper (by decide)
    · rw [hhead] at hupper
      exact absurd hupper (by decide)
    · exact hlit
  have hnameLit : b.lit = name := by
    obtain ⟨hupper, -⟩ | ⟨hupper, -⟩ | ⟨hlit, -⟩ := readAtom_eq_ok hb
    · exact absurd hupper hnil
    · exact absurd hupper ht
    · exact hlit
  have hnotNil : name ≠ "NIL" := by
    rintro rfl
    exact hnil (by decide)
  have hnotTrue : name ≠ "T" := by
    rintro rfl
    exact ht (by decide)
  simp [Sexp.ofList, Sexp.definedName?, hheadLit, hhead, Atom.isSymbol, Atom.isInt, Atom.isNil,
    Atom.isTrue, hnameLit, isIntegerLiteral_of_isSymbolLiteral hliteral, hnotNil, hnotTrue]

end Reading

/-! ## Where definitions stand -/

namespace Reading

/-- The form that tokens begin with. -/
def first? (toks : List Token) : Option Sexp := (form toks).1.toOption.join

theorem Datum.first?_append {toks : List Token} {x : Sexp} (h : Datum toks x) (rest : List Token) :
    first? (toks ++ rest) = some x := by
  rw [first?, h.form_append]
  rfl

theorem first?_rparen (closing : String) (rest : List Token) :
    first? (⟨.rparen, closing⟩ :: rest) = none := rfl

end Reading

namespace Editor

/-- A definition in a text: the list that is read from its opening parenthesis on, the span of its
    name, and the spans after that. -/
structure Site where
  node : Sexp
  name : Span
  after : List Span

namespace Site

/-- The definition whose opening parenthesis is the first of the spans. -/
def at? : List Span → Option Site
  | opening :: head :: name :: after =>
    match Reading.first? ((opening :: head :: name :: after).map Span.token) with
    | some node => if node.definedName?.isSome then some ⟨node, name, after⟩ else none
    | none => none
  | _ => none

/-- The definitions whose opening parentheses are among the spans, in order. -/
def among : List Span → List Site
  | [] => []
  | piece :: pieces => (at? (piece :: pieces)).toList ++ among pieces

/-- The entry that the index makes of a definition. -/
def entry (text : List Char) (site : Site) : Definition :=
  ⟨site.name.text, Definition.paramsOf (site.after.map Span.text),
    Text.position text site.name.start⟩

/-- The list defines the name, and after the name its other elements are written. -/
structure WellRead (site : Site) : Prop where
  definedName? : site.node.definedName? = some site.name.text
  elements : ∃ inner rest, site.after = inner ++ rest ∧
    Reading.Data (inner.map Span.token) (site.node.items.drop 2)

theorem at?_eq_none {pieces : List Span}
    (h : ∀ node, Reading.first? (pieces.map Span.token) = some node → node.definedName? = none) :
    at? pieces = none := by
  rw [at?.eq_def]
  split
  · split
    · next hfirst => simp [h _ hfirst]
    · rfl
  · rfl

theorem at?_eq_some {opening head name : Span} {after : List Span} {node : Sexp}
    (hfirst : Reading.first? ((opening :: head :: name :: after).map Span.token) = some node)
    (hnode : node.definedName?.isSome = true) :
    at? (opening :: head :: name :: after) = some ⟨node, name, after⟩ := by
  rw [at?, hfirst]
  exact if_pos hnode

end Site

/-- The definitions of a text. -/
def sites (text : String) : List Site := Site.among (spans text)

/-! ## The index and the forms find the same -/

/-- The definitions under names that the reader keeps. -/
def kept (ds : List Definition) : List Definition := ds.filter fun d => IsSymbolName d.name

theorem kept_append (ds es : List Definition) : kept (ds ++ es) = kept ds ++ kept es :=
  List.filter_append ds es

/-- Whatever spans follow `pieces`, the definitions in the expressions are those whose parentheses open
    among `pieces`, and the index finds the same. -/
def Finds (text : List Char) (pieces : List Span) (xs : List Sexp) : Prop :=
  ∀ rest, ∃ found : List Site, found.map Site.node = Sexp.definitions xs ∧
    (∀ site ∈ found, site.WellRead) ∧ Site.among (pieces ++ rest) = found ++ Site.among rest ∧
    kept (Definition.among text (pieces ++ rest)) =
      found.map (Site.entry text) ++ kept (Definition.among text rest)

theorem finds_nil (text : List Char) : Finds text [] [] :=
  fun _ => ⟨[], rfl, nofun, rfl, rfl⟩

theorem Finds.append {text : List Char} {pieces others : List Span} {x : Sexp} {xs : List Sexp}
    (h : Finds text pieces [x]) (h' : Finds text others xs) :
    Finds text (pieces ++ others) (x :: xs) := by
  intro rest
  obtain ⟨found, hnodes, hread, hsites, hkept⟩ := h (others ++ rest)
  obtain ⟨found', hnodes', hread', hsites', hkept'⟩ := h' rest
  refine ⟨found ++ found', ?_, ?_, ?_, ?_⟩
  · rw [List.map_append, hnodes, hnodes', ← Sexp.definitions_cons]
  · exact List.forall_mem_append.2 ⟨hread, hread'⟩
  · rw [List.append_assoc, hsites, hsites', List.append_assoc]
  · rw [List.append_assoc, hkept, hkept', List.map_append, List.append_assoc]

theorem Span.text_of_token_lparen {s : Span} {text : String} (h : s.token = ⟨.lparen, text⟩) :
    s.text = "(" :=
  (kind_token_eq_iff .lparen nofun s).1 (by rw [h])

theorem Span.text_of_token_rparen {s : Span} {text : String} (h : s.token = ⟨.rparen, text⟩) :
    s.text = ")" :=
  (kind_token_eq_iff .rparen nofun s).1 (by rw [h])

theorem Span.text_ne_lparen {piece : Span} {tok : Token} (h : piece.token = tok)
    (hkind : tok.kind ≠ .lparen) : piece.text ≠ "(" := by
  intro htext
  refine hkind ?_
  rw [← h]
  exact (kind_token_eq_iff .lparen nofun piece).2 htext

/-- A datum that is no definition and opens no list, such as an atom or a quotation, adds nothing to
    what is found behind its first piece. -/
theorem Finds.cons {text : List Char} {piece : Span} {pieces : List Span} {x : Sexp}
    {xs : List Sexp} (h : Finds text pieces xs) (hopen : piece.text ≠ "(")
    (hdatum : Reading.Datum ((piece :: pieces).map Span.token) x) (hname : x.definedName? = none)
    (hsame : Sexp.definitions [x] = Sexp.definitions xs) : Finds text (piece :: pieces) [x] := by
  intro rest
  have hsite : Site.at? (piece :: (pieces ++ rest)) = none := by
    refine Site.at?_eq_none fun node hnode => ?_
    have hfirst := hdatum.first?_append (rest.map Span.token)
    rw [← List.map_append] at hfirst
    cases hfirst.symm.trans hnode
    exact hname
  obtain ⟨found, hnodes, hread, hsites, hkept⟩ := h rest
  refine ⟨found, ?_, hread, ?_, ?_⟩
  · rw [hnodes, hsame]
  · rw [List.cons_append, Site.among, hsite, hsites]
    rfl
  · rw [List.cons_append, Definition.among, if_neg hopen, hkept]

theorem Span.token_eq_atom {s : Span} (hopen : s.text ≠ "(") (hclose : s.text ≠ ")")
    (hquote : s.text ≠ "'") : s.token = ⟨.atom, s.text⟩ := by
  simp [token, Token.ofText, hopen, hclose, hquote]

theorem Span.token_of_upper {s : Span} (h : Text.upper s.text = "DEFUN") :
    s.token = ⟨.atom, s.text⟩ := by
  have hne : ∀ mark, Text.upper mark ≠ "DEFUN" → s.text ≠ mark := by
    rintro mark hmark rfl
    exact hmark h
  exact token_eq_atom (hne "(" (by decide)) (hne ")" (by decide))
    (hne "'" (by decide))

theorem Span.token_of_isSymbolName {s : Span} (h : IsSymbolName s.text) :
    s.token = ⟨.atom, s.text⟩ := by
  exact token_eq_atom (h.ne (by decide)) (h.ne (by decide))
    (h.ne (by decide))

/-- A list that is no definition is none to the index either. -/
theorem kept_after?_eq_nil {closing : Span} {inner : List Span} {xs : List Sexp}
    (hclose : closing.text = ")") (h : Reading.Data (inner.map Span.token) xs)
    (hname : (Sexp.ofList xs).definedName? = none) (text : List Char) (rest : List Span) :
    kept (Definition.after? text (inner ++ closing :: rest)).toList = [] := by
  rw [kept, List.filter_eq_nil_iff]
  intro d hd hsymbol
  obtain ⟨head, name, others, hpieces, hhead, -, hnotClose, rfl⟩ :=
    Definition.after?_eq_some (Option.mem_toList.1 hd)
  have hsymbol : IsSymbolName name.text := decide_eq_true_iff.1 hsymbol
  -- In a list of fewer than two pieces the index would take the closing parenthesis for one.
  match inner with
  | [] =>
    obtain ⟨rfl, -⟩ := List.cons.inj hpieces
    rw [hclose] at hhead
    exact absurd hhead (by decide)
  | [_] =>
    obtain ⟨rfl, -⟩ := List.cons.inj (List.cons.inj hpieces).2
    exact hnotClose hclose
  | _ :: _ :: inner =>
    obtain ⟨rfl, htail⟩ := List.cons.inj hpieces
    obtain ⟨rfl, -⟩ := List.cons.inj htail
    rw [List.map_cons, List.map_cons, Span.token_of_upper hhead,
      Span.token_of_isSymbolName hsymbol] at h
    rw [h.definedName?_of_tokens hhead hsymbol] at hname
    cases hname

/-- What is read from an opening parenthesis on. -/
theorem first?_list {opening closing : Span} {inner : List Span} {xs : List Sexp} {o c : String}
    (hopen : opening.token = ⟨.lparen, o⟩) (hclose : closing.token = ⟨.rparen, c⟩)
    (h : Reading.Data (inner.map Span.token) xs) (rest : List Span) :
    Reading.first? ((opening :: (inner ++ closing :: rest)).map Span.token) =
      some (Sexp.ofList xs) := by
  have hlist : Reading.Datum (⟨.lparen, o⟩ :: (inner.map Span.token ++ [⟨.rparen, c⟩]))
      (Sexp.ofList xs) := .list h
  have hfirst := hlist.first?_append (rest.map Span.token)
  simpa [hopen, hclose] using hfirst

/-- A list that is a definition is one to the index too. -/
theorem exists_site {opening closing : Span} {inner : List Span} {xs : List Sexp} {o c name : String}
    (hopen : opening.token = ⟨.lparen, o⟩) (hclose : closing.token = ⟨.rparen, c⟩)
    (h : Reading.Data (inner.map Span.token) xs)
    (hname : (Sexp.ofList xs).definedName? = some name) (text : List Char) (rest : List Span) :
    ∃ site : Site, site.node = Sexp.ofList xs ∧ site.WellRead ∧
      Site.at? (opening :: (inner ++ closing :: rest)) = some site ∧
      kept (Definition.after? text (inner ++ closing :: rest)).toList = [site.entry text] := by
  have hfirst := first?_list hopen hclose h rest
  have hsome : (Sexp.ofList xs).definedName?.isSome = true := hname ▸ rfl
  obtain ⟨headText, restToks, htoks, hhead, hsymbol⟩ := h.tokens_of_definedName? hname
  obtain ⟨head, others, rfl, hheadToken, hothers⟩ := List.map_eq_cons_iff.1 htoks
  obtain ⟨nameSpan, after, rfl, hnameToken, -⟩ := List.map_eq_cons_iff.1 hothers
  obtain rfl : head.text = headText := congrArg Token.text hheadToken
  obtain rfl : nameSpan.text = name := congrArg Token.text hnameToken
  have hafter : Definition.after? text (head :: nameSpan :: (after ++ closing :: rest)) =
      some (Site.entry text ⟨Sexp.ofList xs, nameSpan, after ++ closing :: rest⟩) := by
    rw [Definition.after?, if_pos]
    · rfl
    · simp [hhead, hsymbol.ne (show isSymbolLiteral "(" = false by decide),
        hsymbol.ne (show isSymbolLiteral ")" = false by decide)]
  refine ⟨⟨Sexp.ofList xs, nameSpan, after ++ closing :: rest⟩, rfl, ?_,
    Site.at?_eq_some hfirst hsome, ?_⟩
  · rw [List.map_cons, List.map_cons, hheadToken, hnameToken] at h
    obtain ⟨a, ys, rfl, -, hys⟩ := h.uncons_atom
    obtain ⟨b, zs, rfl, -, hzs⟩ := hys.uncons_atom
    exact ⟨hname, after, closing :: rest, rfl, hzs⟩
  · rw [List.cons_append, List.cons_append, hafter, Option.toList_some, kept,
      List.filter_cons_of_pos]
    · rfl
    · exact decide_eq_true hsymbol

/-- At an opening parenthesis the list that it opens is found, if it is a definition, and the index
    finds the same. -/
theorem exists_here {opening closing : Span} {inner : List Span} {xs : List Sexp} {o c : String}
    (hopen : opening.token = ⟨.lparen, o⟩) (hclose : closing.token = ⟨.rparen, c⟩)
    (h : Reading.Data (inner.map Span.token) xs) (text : List Char) (rest : List Span) :
    ∃ here : List Site,
      (here.map Site.node = [Sexp.ofList xs].filter fun x => x.definedName?.isSome) ∧
      (∀ site ∈ here, site.WellRead) ∧
      (Site.at? (opening :: (inner ++ closing :: rest))).toList = here ∧
      kept (Definition.after? text (inner ++ closing :: rest)).toList =
        here.map (Site.entry text) := by
  cases hname : (Sexp.ofList xs).definedName? with
  | none =>
    have hat : Site.at? (opening :: (inner ++ closing :: rest)) = none := by
      refine Site.at?_eq_none fun node hnode => ?_
      cases (first?_list hopen hclose h rest).symm.trans hnode
      exact hname
    have hnone := kept_after?_eq_nil (Span.text_of_token_rparen hclose) h hname text rest
    refine ⟨[], ?_, nofun, by rw [hat]; rfl, hnone⟩
    rw [List.filter_cons_of_neg (by simp [hname])]
    rfl
  | some name =>
    obtain ⟨site, hnode, hsite, hat, hentry⟩ := exists_site hopen hclose h hname text rest
    refine ⟨[site], ?_, by simpa using hsite, by rw [hat]; rfl, hentry⟩
    rw [List.filter_cons_of_pos (by simp [hname]), List.map_singleton, hnode]
    rfl

/-- What a list finds is itself, if it is a definition, and what its elements find. -/
theorem Finds.list {text : List Char} {opening closing : Span} {inner : List Span} {xs : List Sexp}
    {o c : String} (h : Finds text inner xs) (hopen : opening.token = ⟨.lparen, o⟩)
    (hclose : closing.token = ⟨.rparen, c⟩) (hdata : Reading.Data (inner.map Span.token) xs) :
    Finds text (opening :: (inner ++ [closing])) [Sexp.ofList xs] := by
  intro rest
  have hcloseText : closing.text ≠ "(" := by
    rw [Span.text_of_token_rparen hclose]
    decide
  have hcloseSite : Site.at? (closing :: rest) = none := by
    refine Site.at?_eq_none fun node hnode => ?_
    rw [List.map_cons, hclose, Reading.first?_rparen] at hnode
    cases hnode
  obtain ⟨here, hhere, hhereRead, hat, hentry⟩ := exists_here hopen hclose hdata text rest
  obtain ⟨found, hnodes, hread, hsites, hkept⟩ := h (closing :: rest)
  rw [Site.among, hcloseSite, Option.toList_none, List.nil_append] at hsites
  rw [Definition.among, if_neg hcloseText] at hkept
  have hpieces : opening :: (inner ++ [closing]) ++ rest = opening :: (inner ++ closing :: rest) := by
    simp
  refine ⟨here ++ found, ?_, List.forall_mem_append.2 ⟨hhereRead, hread⟩, ?_, ?_⟩
  · rw [List.map_append, hhere, hnodes, Sexp.definitions_ofList]
  · rw [hpieces, Site.among, hat, hsites, List.append_assoc]
  · rw [hpieces, Definition.among, if_pos (Span.text_of_token_lparen hopen), kept_append, hentry,
      hkept, List.map_append, List.append_assoc]

mutual

theorem finds_datum (text : List Char) : ∀ {toks : List Token} {x : Sexp}, Reading.Datum toks x →
    ∀ pieces : List Span, pieces.map Span.token = toks → Finds text pieces [x]
  | _, _, .atom wellFormed denotes, pieces, hpieces => by
    obtain ⟨piece, rfl, hpiece⟩ := List.map_eq_singleton_iff.1 hpieces
    exact (finds_nil text).cons (Span.text_ne_lparen hpiece nofun)
      (hpieces ▸ .atom wellFormed denotes) rfl rfl
  | _, _, .quote quoted, pieces, hpieces => by
    obtain ⟨piece, others, rfl, hpiece, hothers⟩ := List.map_eq_cons_iff.1 hpieces
    exact (finds_datum text quoted others hothers).cons (Span.text_ne_lparen hpiece nofun)
      (hpieces ▸ .quote quoted) (Sexp.definedName?_quotation _) (Sexp.definitions_quotation _)
  | _, _, .list elements, pieces, hpieces => by
    obtain ⟨opening, others, rfl, hopen, hothers⟩ := List.map_eq_cons_iff.1 hpieces
    obtain ⟨inner, last, rfl, hinner, hlast⟩ := List.map_eq_append_iff.1 hothers
    obtain ⟨closing, rfl, hclose⟩ := List.map_eq_singleton_iff.1 hlast
    have hfinds := finds_data text elements inner hinner
    exact hfinds.list hopen hclose (hinner ▸ elements)

theorem finds_data (text : List Char) : ∀ {toks : List Token} {xs : List Sexp}, Reading.Data toks xs →
    ∀ pieces : List Span, pieces.map Span.token = toks → Finds text pieces xs
  | _, _, .nil, pieces, hpieces => by
    rw [List.map_eq_nil_iff.1 hpieces]
    exact finds_nil text
  | _, _, .cons head tail, pieces, hpieces => by
    obtain ⟨first, others, rfl, hfirst, hothers⟩ := List.map_eq_append_iff.1 hpieces
    exact (finds_datum text head first hfirst).append (finds_data text tail others hothers)

end

/-- In a text that the reader accepts, the definitions that stand in the text are those in its forms,
    and the index finds them in the same order. -/
theorem sites_of_accepted {text : String} (h : (read text).failure = none) :
    (sites text).map Site.node = Sexp.definitions (read text).forms ∧
      (∀ site ∈ sites text, site.WellRead) ∧
      kept (Definition.among text.toList (spans text)) =
        (sites text).map (Site.entry text.toList) := by
  obtain ⟨found, hnodes, hread, hsites, hkept⟩ := finds_data text.toList
    (Reading.data_of_failure_eq_none h) (spans text) (spans_token text) []
  have hfound : sites text = found := by
    rw [List.append_nil, Site.among, List.append_nil] at hsites
    exact hsites
  have hnone : kept (Definition.among text.toList []) = [] := rfl
  rw [List.append_nil, hnone, List.append_nil] at hkept
  rw [hfound]
  exact ⟨hnodes, hread, hkept⟩

theorem isSymbolName_of_mem_sites {text : String} (h : (read text).failure = none) {site : Site}
    (hsite : site ∈ sites text) : IsSymbolName site.name.text := by
  obtain ⟨-, -, hkept⟩ := sites_of_accepted h
  have hentry : site.entry text.toList ∈ kept (Definition.among text.toList (spans text)) := by
    rw [hkept]
    exact List.mem_map_of_mem hsite
  exact decide_eq_true_iff.1 (List.mem_filter.1 hentry).2

/-- The entry of a name is made of the last definition of the name. -/
theorem get?_functions_of_accepted {text name : String} (h : (read text).failure = none)
    (hname : IsSymbolName name) :
    (Index.of text).functions.get? name =
      ((sites text).filter fun site => site.name.text = name).getLast?.map
        (Site.entry text.toList) := by
  obtain ⟨-, -, hkept⟩ := sites_of_accepted h
  have hsame : (Definition.among text.toList (spans text)).filter (fun d => d.name = name) =
      (kept (Definition.among text.toList (spans text))).filter fun d => d.name = name := by
    rw [kept, List.filter_filter]
    refine List.filter_congr fun d _ => ?_
    by_cases hd : d.name = name <;> simp [hd, hname]
  rw [Index.get?_functions, hsame, hkept, List.filter_map, List.getLast?_map]
  rfl

/-! ## Formals -/

theorem tokens_of_symbols {toks : List Token} {formals : List Atom}
    (h : Reading.Data toks (formals.map .atom)) (hplain : ∀ a ∈ formals, a ≠ .nil ∧ a ≠ .t) :
    toks = formals.map fun a => ⟨.atom, a.lit⟩ := by
  induction formals generalizing toks with
  | nil =>
    cases h
    rfl
  | cons a formals ih =>
    obtain ⟨first, rest, rfl, hfirst, hrest⟩ := h.uncons
    obtain ⟨hnil, ht⟩ := hplain a List.mem_cons_self
    obtain ⟨rfl, -⟩ := hfirst.tokens_eq_of_atom hnil ht
    rw [ih hrest fun b hb => hplain b (List.mem_cons_of_mem a hb)]
    rfl

theorem paramsOf_closed {names : List String} (h : ")" ∉ names) (rest : List String) :
    Definition.paramsOf ("(" :: (names ++ ")" :: rest)) = names := by
  have hnames : ∀ name ∈ names, decide (name ≠ ")") = true := by
    intro name hname
    rw [decide_eq_true_iff]
    rintro rfl
    exact h hname
  rw [Definition.paramsOf, if_pos rfl, List.takeWhile_append_of_pos hnames]
  simp

/-- The formals that the index takes are those of the list, if it is a list of symbols that can be
    told from a quotation. -/
theorem paramsOf_datum {pieces : List Span} {formals : List Atom}
    (h : Reading.Datum (pieces.map Span.token) (Sexp.ofList (formals.map .atom)))
    (hplain : ∀ a ∈ formals, a ≠ .nil ∧ a ≠ .t) (hquote : formals.head? ≠ some .quote)
    (rest : List Span) :
    Definition.paramsOf ((pieces ++ rest).map Span.text) = formals.map Atom.lit := by
  generalize htoks : pieces.map Span.token = toks at h
  generalize hx : Sexp.ofList (formals.map .atom) = x at h
  cases h with
  | @atom text a wellFormed denotes =>
    obtain ⟨piece, rfl, hpiece⟩ := List.map_eq_singleton_iff.1 htoks
    have hformals : formals = [] := by
      cases formals with
      | nil => rfl
      | cons b formals => cases hx
    rw [hformals, List.singleton_append, List.map_cons, Definition.paramsOf,
      if_neg (Span.text_ne_lparen hpiece nofun)]
    rfl
  | quote quoted =>
    -- A quote mark reads as a list that begins with `QUOTE`, to which the index sees no parenthesis.
    cases formals with
    | nil => cases hx
    | cons b formals =>
      obtain ⟨hb, -⟩ := Sexp.list.inj hx
      cases hb
      exact absurd rfl hquote
  | @list o c inner xs elements =>
    have hxs : formals.map Sexp.atom = xs := by
      have hitems := congrArg Sexp.items hx
      rwa [Sexp.items_ofList, Sexp.items_ofList] at hitems
    subst hxs
    obtain rfl := tokens_of_symbols elements hplain
    obtain ⟨opening, others, rfl, hopen, hothers⟩ := List.map_eq_cons_iff.1 htoks
    obtain ⟨innerPieces, last, rfl, hinner, hlast⟩ := List.map_eq_append_iff.1 hothers
    obtain ⟨closing, rfl, hclose⟩ := List.map_eq_singleton_iff.1 hlast
    have hopenText := Span.text_of_token_lparen hopen
    have hcloseText := Span.text_of_token_rparen hclose
    have htexts : innerPieces.map Span.text = formals.map Atom.lit := by
      have hmap := congrArg (List.map Token.text) hinner
      rwa [List.map_map, List.map_map] at hmap
    have hnotClose : ")" ∉ formals.map Atom.lit := by
      intro hmem
      obtain ⟨a, -, ha⟩ := List.mem_map.1 hmem
      have hvalid := a.valid
      rw [ha] at hvalid
      exact absurd hvalid (by decide)
    have hpieces : (opening :: (innerPieces ++ [closing]) ++ rest).map Span.text =
        "(" :: (formals.map Atom.lit ++ ")" :: rest.map Span.text) := by
      simp [hopenText, hcloseText, htexts]
    rw [hpieces, paramsOf_closed hnotClose]

theorem exists_formals {xs : List Sexp} {names : List String}
    (h : xs.mapM Sexp.symbol? = some names) :
    ∃ formals : List Atom, xs = formals.map .atom ∧ names = formals.map Atom.lit := by
  induction xs generalizing names with
  | nil =>
    cases h
    exact ⟨[], rfl, rfl⟩
  | cons x xs ih =>
    rw [List.mapM_cons] at h
    obtain ⟨name, hname, h⟩ := Option.bind_eq_some_iff.1 h
    obtain ⟨others, hothers, h⟩ := Option.bind_eq_some_iff.1 h
    cases h
    obtain ⟨a, rfl, -, rfl⟩ := Sexp.symbol?_eq_some hname
    obtain ⟨formals, rfl, rfl⟩ := ih hothers
    exact ⟨a :: formals, rfl, rfl⟩

/-- The entry of a definition has its formals. -/
theorem Site.WellRead.params_entry {site : Site} (h : site.WellRead) {x : Sexp}
    {names : List String} (hx : site.node.items[2]? = some x) (hlist : x.isListOrNil = true)
    (hnames : x.items.mapM Sexp.symbol? = some names) (hnil : "NIL" ∉ names) (ht : "T" ∉ names)
    (hquote : names.head? ≠ some "QUOTE") (text : List Char) : (site.entry text).params = names := by
  obtain ⟨formals, hitems, rfl⟩ := exists_formals hnames
  have hplain : ∀ a ∈ formals, a ≠ .nil ∧ a ≠ .t := by
    intro a ha
    have hlit : a.lit ∈ formals.map Atom.lit := List.mem_map_of_mem ha
    refine ⟨?_, ?_⟩
    · rintro rfl
      exact hnil hlit
    · rintro rfl
      exact ht hlit
  have hfirst : formals.head? ≠ some .quote := by
    intro heq
    rw [List.head?_map, heq] at hquote
    exact hquote rfl
  obtain ⟨inner, rest, hafter, hdata⟩ := h.elements
  have hdrop : site.node.items.drop 2 =
      Sexp.ofList (formals.map .atom) :: site.node.items.drop 3 := by
    obtain ⟨hlt, hget⟩ := List.getElem?_eq_some_iff.1 hx
    rw [List.drop_eq_getElem_cons hlt, hget, ← hitems, Sexp.ofList_items hlist]
  rw [hdrop] at hdata
  obtain ⟨toks, others, hsplit, hdatum, -⟩ := hdata.uncons
  obtain ⟨pieces, innerRest, rfl, hpieces, -⟩ := List.map_eq_append_iff.1 hsplit
  rw [entry, hafter, List.append_assoc]
  exact paramsOf_datum (hpieces ▸ hdatum) hplain hfirst (innerRest ++ rest)

/-! ## The table of functions -/

theorem mem_keys_functions_iff {text : String} (h : (read text).failure = none) (name : String) :
    name ∈ (Index.of text).functions.keys ∧ IsSymbolName name ↔
      ∃ x ∈ Sexp.definitions (read text).forms, x.definedName? = some name := by
  obtain ⟨hnodes, hread, -⟩ := sites_of_accepted h
  rw [← hnodes, Table.mem_keys_iff]
  refine ⟨?_, ?_⟩
  · rintro ⟨⟨d, hd⟩, hname⟩
    rw [get?_functions_of_accepted h hname] at hd
    obtain ⟨site, hlast, -⟩ := Option.map_eq_some_iff.1 hd
    have hsite := List.mem_filter.1 (List.mem_of_getLast? hlast)
    refine ⟨site.node, List.mem_map_of_mem hsite.1, ?_⟩
    rw [(hread site hsite.1).definedName?, decide_eq_true_iff.1 hsite.2]
  · rintro ⟨x, hx, hname⟩
    obtain ⟨site, hsite, rfl⟩ := List.mem_map.1 hx
    obtain rfl : site.name.text = name :=
      Option.some.inj ((hread site hsite).definedName?.symm.trans hname)
    have hsymbol := isSymbolName_of_mem_sites h hsite
    refine ⟨?_, hsymbol⟩
    have hmem : site ∈ (sites text).filter fun other => other.name.text = site.name.text :=
      List.mem_filter.2 ⟨hsite, decide_eq_true rfl⟩
    rw [get?_functions_of_accepted h hsymbol,
      List.getLast?_eq_some_getLast (List.ne_nil_of_mem hmem)]
    exact ⟨_, rfl⟩

/-- The last definition of a name is its entry. -/
theorem get?_functions_of_last {text name : String} (h : (read text).failure = none)
    {earlier later : List Site} {site : Site} (hsplit : sites text = earlier ++ site :: later)
    (hname : site.name.text = name) (hlater : ∀ other ∈ later, other.name.text ≠ name) :
    (Index.of text).functions.get? name = some (site.entry text.toList) := by
  have hsite : site ∈ sites text := by simp [hsplit]
  have hnone : later.filter (fun other => other.name.text = name) = [] := by
    rw [List.filter_eq_nil_iff]
    intro other hother
    simpa using hlater other hother
  rw [get?_functions_of_accepted h (hname ▸ isSymbolName_of_mem_sites h hsite), hsplit,
    List.filter_append, List.filter_cons_of_pos (by simpa using hname), hnone, List.getLast?_concat]
  rfl

/-- In a text that the reader accepts, the index and the forms agree about definitions: the definitions
    that stand in the text, in order, are the lists in its forms at any depth that define a name; the
    names in the index, but for those that the reader does not keep, are the names of these lists; and
    the entry of a name comes from the last list that defines it. It has the place of the name in that
    list, and the formals of the list if they are symbols that can be told from a quotation. -/
theorem functions_agree_with_forms (text : String) (haccepted : (read text).failure = none) :
    (sites text).map Site.node = Sexp.definitions (read text).forms ∧
      (∀ name, name ∈ (Index.of text).functions.keys ∧ IsSymbolName name ↔
        ∃ x ∈ Sexp.definitions (read text).forms, x.definedName? = some name) ∧
      ∀ earlier site later name, sites text = earlier ++ site :: later →
        site.node.definedName? = some name →
        (∀ other ∈ later, other.node.definedName? ≠ some name) →
        ∃ d, (Index.of text).functions.get? name = some d ∧ d.name = name ∧ site.name.text = name ∧
          d.place = Text.position text.toList site.name.start ∧
          ∀ x names, site.node.items[2]? = some x → x.isListOrNil = true →
            x.items.mapM Sexp.symbol? = some names → "NIL" ∉ names → "T" ∉ names →
            names.head? ≠ some "QUOTE" → d.params = names := by
  obtain ⟨hnodes, hread, -⟩ := sites_of_accepted haccepted
  refine ⟨hnodes, mem_keys_functions_iff haccepted, ?_⟩
  intro earlier site later name hsplit hname hlater
  have hwell : ∀ other ∈ site :: later, other.WellRead := by
    intro other hother
    refine hread other ?_
    rw [hsplit]
    exact List.mem_append_right earlier hother
  have hsite := hwell site List.mem_cons_self
  have hnameText : site.name.text = name :=
    Option.some.inj (hsite.definedName?.symm.trans hname)
  have hlaterText : ∀ other ∈ later, other.name.text ≠ name := by
    intro other hother heq
    refine hlater other hother ?_
    rw [(hwell other (List.mem_cons_of_mem site hother)).definedName?, heq]
  refine ⟨site.entry text.toList, get?_functions_of_last haccepted hsplit hnameText hlaterText,
    hnameText, hnameText, rfl, ?_⟩
  intro x names hx hlist hnames hnil ht hquote
  exact hsite.params_entry hx hlist hnames hnil ht hquote text.toList

/-- In `'(defun f () x)⏎(a (Defun f (y Z) y))` the name `f` is defined twice, once in a quotation and
    once inside another list; the entry is that of the second definition. -/
theorem functions_agree_with_forms_nested :
    let text := "'(defun f () x)\n(a (Defun f (y Z) y))"
    (read text).failure = none ∧ (sites text).length = 2 ∧
      ∃ d, (Index.of text).functions.get? "f" = some d ∧ d.place = ⟨1, 10⟩ ∧
        d.params = ["y", "Z"] := by
  intro text
  have haccepted : (read text).failure = none := Option.isNone_iff_eq_none.1 (by decide +kernel)
  have hlength : (sites text).length = 2 := by decide +kernel
  obtain ⟨first, second, hsplit⟩ := List.length_eq_two.1 hlength
  have hsecond : ((sites text)[1]?.map fun site => (site.node.definedName?,
      Text.position text.toList site.name.start,
      site.node.items[2]?.map fun x => (x.isListOrNil, x.items.mapM Sexp.symbol?))) =
        some (some "f", ⟨1, 10⟩, some (true, some ["y", "Z"])) := by decide +kernel
  rw [hsplit] at hsecond
  simp only [List.getElem?_cons_succ, List.getElem?_cons_zero, Option.map_some, Option.some.injEq,
    Prod.mk.injEq] at hsecond
  obtain ⟨hname, hplace, hformals⟩ := hsecond
  obtain ⟨x, hx, hsymbols⟩ := Option.map_eq_some_iff.1 hformals
  obtain ⟨hlist, hnames⟩ := Prod.mk.inj hsymbols
  obtain ⟨d, hd, -, -, hat, hparams⟩ :=
    (functions_agree_with_forms text haccepted).2.2 [first] second [] "f" hsplit hname nofun
  exact ⟨haccepted, hlength, d, hd, hat.trans hplace,
    hparams x _ hx hlist hnames (by decide) (by decide) (by decide)⟩

end Editor

end MiniLisp
