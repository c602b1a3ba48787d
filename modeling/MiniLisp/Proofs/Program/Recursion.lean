import Mathlib.Data.Nat.Factorial.Basic
import MiniLisp.Proofs.Evaluation.Arithmetic
import MiniLisp.Proofs.Function
import MiniLisp.Proofs.Program.Forms
import MiniLisp.Proofs.Reading.RoundTrip

/-! # Recursive programs

Two functions that call themselves, one over a number and one over a list, from the texts that define
them to the values of all their calls. The body of a call is evaluated with the formal bound on top of
the variables of the caller, among which is the same formal from the call before; so what is proved of
a call is proved in every environment that knows the function. -/

namespace MiniLisp

/-! ## Definitions -/

theorem Atom.isSymbol_of_isConstant {a : Atom} (h : a.isConstant = false) : a.isSymbol = true := by
  simp only [isConstant, Bool.or_eq_false_iff] at h
  simp [isSymbol, h.1]

/-- A definition of a function of one formal, under a name that refers to nothing else. -/
structure UnaryDefinition where
  name : Atom
  formal : Atom
  body : Sexp
  name_isConstant : name.isConstant = false := by decide
  name_special : SpecialForm.ofName? name.lit = none := by decide
  name_primitive : Primitive.ofName? name.lit = none := by decide
  name_lambda : isLambdaName name.lit = false := by decide
  formal_isConstant : formal.isConstant = false := by decide
  body_isList : body.isListOrNil = true := by decide

namespace UnaryDefinition

/-- The form `(DEFUN name (formal) body)`. -/
def form (d : UnaryDefinition) : Sexp :=
  .list (.atom SpecialForm.defun.symbol) [.atom d.name, .list (.atom d.formal) [], d.body]

/-- The function that the definition makes. -/
def function (d : UnaryDefinition) : Function :=
  ⟨.named d.name.lit, [d.formal.lit], .list (.atom d.formal) [], d.body⟩

/-- The form `(name x)`. -/
def call (d : UnaryDefinition) (x : Sexp) : Sexp := .list (.atom d.name) [x]

/-- The environment in which the body is evaluated when the value of the actual is `v`. -/
def enter (d : UnaryDefinition) (env : Environment) (v : Sexp) : Environment :=
  env.substitute (.ofList [(d.formal.lit, v)])

theorem namedFunction_eq (d : UnaryDefinition) :
    Environment.namedFunction d.name.lit (.list (.atom d.formal) []) d.body = .ok d.function := by
  have hsymbol : ∀ a ∈ [d.formal], a.isSymbol = true := by
    intro a ha
    rw [List.mem_singleton.1 ha]
    exact Atom.isSymbol_of_isConstant d.formal_isConstant
  rw [Environment.namedFunction, if_neg (by simp [d.name_lambda])]
  exact Function.make_of_nodup (.named d.name.lit) hsymbol (by simp) d.body_isList

/-- A definition gives its name and keeps its function. -/
theorem evaluates_form (d : UnaryDefinition) (m : Machine) :
    ∃ m', Evaluates d.form m (.ok (.atom d.name)) m' ∧
      m'.env = m.env.addFunction d.name.lit d.function := by
  have hname : (Sexp.atom d.name).symbol? = some d.name.lit :=
    if_pos (Atom.isSymbol_of_isConstant d.name_isConstant)
  refine ⟨{ m with
    env := m.env.addFunction d.name.lit d.function
    trace := .functionRegistered d.name.lit (.list (.atom d.formal) []) :: m.trace }, ⟨1, ?_⟩, rfl⟩
  rw [form, SpecialForm.evaluate_symbol, SpecialForm.evaluate, SpecialForm.evaluateDefun, hname]
  simp [Eval.registerFunction, d.namedFunction_eq]

end UnaryDefinition

/-! ## Calls -/

namespace Environment

/-- A call of the function of the definition finds it, and its body finds the primitives. -/
structure Knows (env : Environment) (d : UnaryDefinition) : Prop where
  function : env.functions.get? d.name.lit = some d.function
  primitives : ∀ p : Primitive, env.functions.get? p.name = none

variable {env : Environment} {d : UnaryDefinition}

theorem knows_addFunction (h : ∀ p : Primitive, env.functions.get? p.name = none) :
    (env.addFunction d.name.lit d.function).Knows d where
  function := by
    rw [addFunction, Table.get?_insert, if_pos rfl]
  primitives p := by
    have hne : d.name.lit ≠ p.name := by
      intro heq
      have hnone := d.name_primitive
      rw [heq, p.ofName?_name] at hnone
      cases hnone
    rw [addFunction, Table.get?_insert, if_neg hne]
    exact h p

/-- A definition of another name changes nothing. -/
theorem Knows.addFunction (h : env.Knows d) {d' : UnaryDefinition} (hne : d'.name.lit ≠ d.name.lit) :
    (env.addFunction d'.name.lit d'.function).Knows d where
  function := by
    rw [Environment.addFunction, Table.get?_insert, if_neg hne]
    exact h.function
  primitives := (knows_addFunction h.primitives).primitives

theorem Knows.enter (h : env.Knows d) (v : Sexp) : (d.enter env v).Knows d :=
  ⟨h.function, h.primitives⟩

/-- In the body the formal stands for the value of the actual, also where the caller has a variable
    of the same name. -/
theorem gives_formal (v : Sexp) : (d.enter env v).Gives (.atom d.formal) (.ok v) := by
  have htable : (Table.ofList [(d.formal.lit, v)]).get? d.formal.lit = some v := by
    rw [Table.ofList, Table.get?_insertAll (by simp), Table.find, if_pos rfl, Option.some_or]
  refine gives_variable d.formal_isConstant ?_
  rw [UnaryDefinition.enter, substitute, Table.get?_merge, htable, Option.some_or]

/-- A call gives what the body gives. -/
theorem Knows.gives_call (h : env.Knows d) {x v : Sexp} (hx : env.Gives x (.ok v))
    {r : Except Error Sexp} (hbody : (d.enter env v).Gives d.body r) :
    env.Gives (d.call x) r :=
  Environment.gives_call d.name_isConstant d.name_special h.function (.cons hx .nil) rfl hbody

end Environment

/-! ## Factorials -/

namespace UnaryDefinition

open Environment (gives_formal gives_integer gives_primitive_two gives_cond_of_holds gives_cond_of_nil
  gives_cond_of_t gives_primitive gives_primitive_one)
open Primitive
open SpecialForm (condForm)

/-- The definition `(DEFUN FACT (N) (COND ((EQ N 0) 1) (T (TIMES N (FACT (MINUS N 1))))))` -/
def factorial : UnaryDefinition where
  name := ⟨"FACT", by decide⟩
  formal := ⟨"N", by decide⟩
  body :=
    let n : Sexp := .atom ⟨"N", by decide⟩
    condForm
      [(eq.form [n, .atom (.canonical 0)], .atom (.canonical 1)),
       (.atom .t, times.form
        [n, .list (.atom ⟨"FACT", by decide⟩) [minus.form [n, .atom (.canonical 1)]]])]

theorem body_factorial : factorial.body = condForm
    [(eq.form [.atom factorial.formal, .atom (.canonical 0)], .atom (.canonical 1)),
     (.atom .t, times.form [.atom factorial.formal,
      factorial.call (minus.form [.atom factorial.formal, .atom (.canonical 1)])])] := rfl

theorem gives_isZero {d : UnaryDefinition} {env : Environment} (h : env.Knows d) (n : Int) :
    (d.enter env (.atom (.canonical n))).Gives (eq.form [.atom d.formal, .atom (.canonical 0)])
      (.ok (.atom (.ofBool (decide (n = 0))))) := by
  have htest := gives_primitive_two rfl ((h.enter (.atom (.canonical n))).primitives .eq)
    (gives_formal _) (gives_integer (Atom.isInt_canonical 0))
  rwa [apply_eq_canonical] at htest

theorem gives_one (env : Environment) :
    env.Gives (.atom (.canonical 1)) (.ok (.atom (.canonical 1))) :=
  gives_integer (Atom.isInt_canonical 1)

theorem value_one : (Atom.canonical 1).value = .ok 1 :=
  Atom.value_canonical (Nat.one_lt_pow (by decide) (by decide))

/-- The number is counted down by the calls, and the products are made on the way back; all of them
    are written with no more digits than the last. -/
theorem gives_factorial (n : Nat) (hfits : n.factorial < 10 ^ Numeral.digitLimit)
    {env : Environment} (henv : env.Knows factorial) {x : Sexp}
    (hx : env.Gives x (.ok (.atom (.canonical n)))) :
    env.Gives (factorial.call x) (.ok (.atom (.canonical n.factorial))) := by
  -- the inner call is made where the formal of the outer one is bound, so the environment varies
  induction n generalizing env x with
  | zero =>
    refine henv.gives_call hx ?_
    rw [body_factorial]
    exact gives_cond_of_holds (gives_isZero henv 0) rfl (gives_one _)
  | succ n ih =>
    have hbody := henv.enter (.atom (.canonical (n + 1 : Nat)))
    have hn : n.factorial < 10 ^ Numeral.digitLimit :=
      Nat.lt_of_le_of_lt (Nat.factorial_le (Nat.le_succ n)) hfits
    have hsucc : n + 1 < 10 ^ Numeral.digitLimit :=
      Nat.lt_of_le_of_lt (Nat.self_le_factorial _) hfits
    have hvalue := Atom.value_canonical (n := (n + 1 : Nat)) hsucc
    have htest := gives_isZero henv (n + 1 : Nat)
    rw [decide_eq_false (by omega)] at htest
    have hminus := gives_operation (p := .minus) rfl (fun _ _ => rfl) (hbody.primitives .minus)
      (gives_formal _) hvalue (gives_one _) value_one
    have hpred : ((n + 1 : Nat) : Int) - 1 = n := by omega
    rw [hpred, integerResult_of_lt (n := n) (by omega)] at hminus
    have htimes := gives_operation (p := .times) rfl (fun _ _ => rfl) (hbody.primitives .times)
      (gives_formal _) hvalue (ih hn hbody hminus) (Atom.value_canonical (n := n.factorial) hn)
    have hproduct : ((n + 1 : Nat) : Int) * n.factorial = (n + 1).factorial := by
      rw [Nat.factorial_succ, Int.natCast_mul]
    rw [hproduct, integerResult_of_lt (n := (n + 1).factorial) hfits] at htimes
    refine henv.gives_call hx ?_
    rw [body_factorial]
    exact gives_cond_of_nil htest rfl (gives_cond_of_t htimes)

/-! ## Lengths -/

/-- The definition `(DEFUN LEN (L) (COND ((NULL L) 0) (T (PLUS 1 (LEN (CDR L))))))` -/
def length : UnaryDefinition where
  name := ⟨"LEN", by decide⟩
  formal := ⟨"L", by decide⟩
  body :=
    let l : Sexp := .atom ⟨"L", by decide⟩
    condForm
      [(null.form [l], .atom (.canonical 0)),
       (.atom .t, plus.form
        [.atom (.canonical 1), .list (.atom ⟨"LEN", by decide⟩) [cdr.form [l]]])]

theorem body_length : length.body = condForm
    [(null.form [.atom length.formal], .atom (.canonical 0)),
     (.atom .t, plus.form [.atom (.canonical 1),
      length.call (cdr.form [.atom length.formal])])] := rfl

/-- Each element is counted once; a sum that cannot be written ends all calls around it. -/
theorem gives_length (xs : List Sexp) {env : Environment} (henv : env.Knows length) {x : Sexp}
    (hx : env.Gives x (.ok (.ofList xs))) :
    env.Gives (length.call x) (integerResult xs.length) := by
  induction xs generalizing env x with
  | nil =>
    have htest := gives_primitive_one (p := .null) (by decide) rfl
      ((henv.enter .nil).primitives .null) (gives_formal .nil)
    have hzero : integerResult (0 : Nat) = .ok (.atom (.canonical 0)) :=
      integerResult_of_lt (Nat.pow_pos (by decide))
    rw [List.length_nil, hzero]
    refine henv.gives_call hx ?_
    rw [body_length]
    exact gives_cond_of_holds htest rfl (gives_integer (Atom.isInt_canonical 0))
  | cons y ys ih =>
    have hbody := henv.enter (.list y ys)
    have htest := gives_primitive_one (p := .null) (by decide) rfl (hbody.primitives .null)
      (gives_formal _)
    have hcdr := gives_primitive_one (p := .cdr) (by decide) rfl (hbody.primitives .cdr)
      (gives_formal _)
    have hrest := ih hbody hcdr
    refine henv.gives_call hx ?_
    rw [body_length]
    refine gives_cond_of_nil htest rfl (gives_cond_of_t ?_)
    rcases Nat.lt_or_ge ys.length (10 ^ Numeral.digitLimit) with hlt | hge
    · rw [integerResult_of_lt (n := ys.length) hlt] at hrest
      have hplus := gives_operation (p := .plus) rfl (fun _ _ => rfl) (hbody.primitives .plus)
        (gives_one _) value_one hrest (Atom.value_canonical (n := ys.length) hlt)
      have hsum : (1 : Int) + ys.length = (y :: ys).length := by
        rw [List.length_cons]
        omega
      rwa [hsum] at hplus
    · rw [integerResult_of_le (n := ys.length) hge] at hrest
      have hlong : 10 ^ Numeral.digitLimit ≤ (y :: ys).length :=
        Nat.le_trans hge (Nat.le_succ ys.length)
      rw [integerResult_of_le (n := (y :: ys).length) hlong]
      exact gives_primitive (p := .plus) (by decide) (hbody.primitives .plus)
        (.cons (gives_one _) (.error hrest)) rfl

/-! ## Texts -/

theorem render_call (d : UnaryDefinition) (a : Atom) :
    (d.call (.atom a)).render = "(" ++ d.name.text ++ " " ++ a.text ++ ")" := by
  apply String.toList_injective
  simp [call, Sexp.render, Sexp.chars, Sexp.tailChars]

/-- The definition of factorials as it is written. -/
def factorialText : String :=
  "\n(DEFUN FACT (N)\n" ++
  "  (COND ((EQ N 0) 1)\n" ++
  "        (T (TIMES N (FACT (MINUS N 1))))))\n"

/-- The definition of lengths as it is written. -/
def lengthText : String :=
  "\n(DEFUN LEN (L)\n" ++
  "  (COND ((NULL L) 0)\n" ++
  "        (T (PLUS 1 (LEN (CDR L))))))\n"

theorem read_factorialText : read factorialText = ⟨[factorial.form], none, []⟩ :=
  read_of_lex (x := factorial.form) (by decide +kernel) (by decide +kernel)

theorem read_lengthText : read lengthText = ⟨[length.form], none, []⟩ :=
  read_of_lex (x := length.form) (by decide +kernel) (by decide +kernel)

theorem readable_call {d : UnaryDefinition} (hname : (Sexp.atom d.name).Readable) {a : Atom}
    (ha : a.isInt = true) : (d.call (.atom a)).Readable := by
  rw [call, Sexp.readable_list]
  intro x hx
  rcases List.mem_cons.1 hx with rfl | hx
  · exact hname
  · rw [List.mem_singleton.1 hx, Sexp.readable_atom, Atom.isSymbol, ha]
    intro hsymbol
    cases hsymbol

/-- The text of a call with a number in decimal. -/
theorem read_factorial_call (n : Nat) :
    read ("(FACT " ++ toString n ++ ")") =
      ⟨[factorial.call (.atom (.canonical n))], none, []⟩ := by
  have hreadable : (factorial.call (.atom (.canonical n))).Readable :=
    readable_call (by decide) (Atom.isInt_canonical n)
  have hunsigned : (factorial.call (.atom (.canonical n))).unsigned =
      factorial.call (.atom (.canonical n)) := by
    have hname : factorial.name.unsigned = factorial.name := rfl
    simp only [call, Sexp.unsigned, Sexp.unsignedAll, Atom.unsigned_canonical, hname]
  have hread := read_render_eq hreadable
  have hname : "(" ++ factorial.name.text ++ " " = "(FACT " := by decide
  rwa [render_call, hname, Atom.text_canonical, Atom.lit_canonical_natCast, hunsigned] at hread

end UnaryDefinition

theorem Program.value_of_read {source : String} {x : Sexp}
    (hread : read source = ⟨[x], none, []⟩) {m m' : Machine} {r : Except Error Sexp}
    (h : Evaluates x m r m') : ∃ fuel, value fuel source m = some (r, m') := by
  obtain ⟨fuel, hrun⟩ := h
  refine ⟨fuel, ?_⟩
  cases r <;> simp [value, values_eq_map, hread, iterate, hrun]

open UnaryDefinition in
/-- On a machine without anything, the two texts define the two functions. From then on a call with
    the number `n` in decimal gives `n!` in decimal, for all `n` whose factorial has at most
    `digitLimit` digits, and a call with a quoted list gives the number of its elements in decimal;
    only `10 ^ digitLimit` elements and more are too many for that. No call leaves a variable
    behind. -/
theorem recursive_definitions_compute :
    ∃ m₁ m₂ : Machine,
      (∃ fuel, Program.value fuel factorialText {} = some (.ok (.atom factorial.name), m₁)) ∧
      (∃ fuel, Program.value fuel lengthText m₁ = some (.ok (.atom length.name), m₂)) ∧
      (∀ n : Nat, n.factorial < 10 ^ Numeral.digitLimit →
        ∃ (fuel : Nat) (a : Atom) (m' : Machine),
          Program.value fuel ("(FACT " ++ toString n ++ ")") m₂ = some (.ok (.atom a), m') ∧
          a.lit = toString n.factorial ∧ m'.env.vars = ∅) ∧
      ∀ l : Sexp, l.isListOrNil = true →
        ∃ (r : Except Error Sexp) (m' : Machine),
          Evaluates (length.call (Reading.quotation l)) m₂ r m' ∧
          (∀ source, read source = ⟨[length.call (Reading.quotation l)], none, []⟩ →
            ∃ fuel, Program.value fuel source m₂ = some (r, m')) ∧
          m'.env.vars = ∅ ∧
          (l.items.length < 10 ^ Numeral.digitLimit →
            ∃ a : Atom, r = .ok (.atom a) ∧ a.lit = toString l.items.length) ∧
          (10 ^ Numeral.digitLimit ≤ l.items.length → r = .error (.overflow .writing)) := by
  obtain ⟨m₁, heval₁, henv₁⟩ := factorial.evaluates_form {}
  obtain ⟨m₂, heval₂, henv₂⟩ := length.evaluates_form m₁
  have hfactorial₁ : m₁.env.Knows factorial := henv₁ ▸ Environment.knows_addFunction fun _ => rfl
  have hfactorial : m₂.env.Knows factorial := henv₂ ▸ hfactorial₁.addFunction (by decide)
  have hlength : m₂.env.Knows length :=
    henv₂ ▸ Environment.knows_addFunction hfactorial₁.primitives
  have hvars : m₂.env.vars = ∅ := by
    rw [henv₂, henv₁]
    rfl
  refine ⟨m₁, m₂, Program.value_of_read read_factorialText heval₁,
    Program.value_of_read read_lengthText heval₂, ?_, ?_⟩
  · intro n hfits
    have hgives := gives_factorial n hfits hfactorial
      (Environment.gives_integer (Atom.isInt_canonical n))
    obtain ⟨m', heval, henv, -⟩ := hgives.machine rfl
    obtain ⟨fuel, hvalue⟩ := Program.value_of_read (read_factorial_call n) heval
    exact ⟨fuel, _, m', hvalue, Atom.lit_canonical_natCast _, by rw [henv, hvars]⟩
  · intro l hl
    obtain ⟨xs, rfl⟩ : ∃ xs, l = .ofList xs := ⟨l.items, (Sexp.ofList_items hl).symm⟩
    have hgives := gives_length xs hlength (Environment.gives_quotation (.ofList xs))
    obtain ⟨m', heval, henv, -⟩ := hgives.machine rfl
    refine ⟨_, m', heval, fun _ hread => Program.value_of_read hread heval, by rw [henv, hvars],
      fun hlt => ?_, fun hge => ?_⟩
    · rw [Sexp.items_ofList] at hlt ⊢
      exact ⟨_, Primitive.integerResult_of_lt hlt, Atom.lit_canonical_natCast _⟩
    · rw [Sexp.items_ofList] at hge
      exact Primitive.integerResult_of_le hge

open UnaryDefinition in
/-- The factorial of 5, and the length of a list of three with a list in it. -/
theorem recursive_definitions_compute_five :
    ∃ m₂ m₃ m₄ : Machine, ∃ fuel₃ fuel₄ : Nat, ∃ a b : Atom,
      Program.value fuel₃ "(FACT 5)" m₂ = some (.ok (.atom a), m₃) ∧ a.lit = "120" ∧
      Program.value fuel₄ "(LEN (QUOTE (A (B NIL) C)))" m₂ = some (.ok (.atom b), m₄) ∧
      b.lit = "3" ∧ m₃.env.vars = ∅ ∧ m₄.env.vars = ∅ := by
  let l : Sexp := .list (.atom ⟨"A", by decide⟩)
    [.list (.atom ⟨"B", by decide⟩) [.nil], .atom ⟨"C", by decide⟩]
  have hread : read "(LEN (QUOTE (A (B NIL) C)))" =
      ⟨[length.call (Reading.quotation l)], none, []⟩ :=
    read_of_lex (x := length.call (Reading.quotation l)) (by decide +kernel) (by decide +kernel)
  obtain ⟨m₁, m₂, -, -, hfactorial, hlength⟩ := recursive_definitions_compute
  obtain ⟨fuel₃, a, m₃, hvalue₃, ha, hvars₃⟩ := hfactorial 5 (by decide +kernel)
  obtain ⟨r, m₄, -, hvalue₄, hvars₄, hshort, -⟩ := hlength l rfl
  have hcount : l.items.length = 3 := rfl
  obtain ⟨b, rfl, hb⟩ := hshort (by decide +kernel)
  rw [hcount] at hb
  obtain ⟨fuel₄, hvalue₄⟩ := hvalue₄ _ hread
  exact ⟨m₂, m₃, m₄, fuel₃, fuel₄, a, b, hvalue₃, ha, hvalue₄, hb, hvars₃, hvars₄⟩

end MiniLisp
