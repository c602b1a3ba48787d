import MiniLisp.Proofs.Environment
import MiniLisp.Proofs.Evaluation.Rules

/-! # Names of anonymous functions

Evaluation knows the form for anonymous functions by its name in capitals. Registering a function and
taking a value for an anonymous function look at the name in small letters instead. The two mappings are
no inverses of each other: a character can lead to a letter in one direction only, or to several
characters. For this name they agree all the same, since both accept the Latin word and the Greek letter
in any mixture of cases, and nothing else. So no function gets into the way of the form, and what counts
as an anonymous function is evaluated as one. -/

namespace MiniLisp

/-! ## Spellings -/

/-- The name is the Latin word or the Greek letter, with small letters and capitals in any mixture. -/
def SpellsLambda (s : String) : Prop :=
  Text.IsCasing "lambda" "LAMBDA" s ∨ Text.IsCasing "λ" "Λ" s

theorem isLambdaName_iff {s : String} : isLambdaName s = true ↔ SpellsLambda s := by
  have hlatin : Text.lower s = "lambda" ↔ Text.IsCasing "lambda" "LAMBDA" s :=
    Text.CaseMapping.SendsCasings.text_eq_iff (by decide +kernel)
  have hgreek : Text.lower s = "λ" ↔ Text.IsCasing "λ" "Λ" s :=
    Text.CaseMapping.SendsCasings.text_eq_iff (by decide +kernel)
  rw [isLambdaName, Bool.or_eq_true, decide_eq_true_eq, decide_eq_true_eq, hlatin, hgreek,
    SpellsLambda]

namespace SpecialForm

theorem named?_eq_some_iff {name : String} {f : SpecialForm} :
    named? name = some f ↔ f.name = name := by
  constructor
  · intro h
    have hname := List.find?_some h
    exact of_decide_eq_true hname
  · rintro rfl
    exact f.named?_name

theorem ofName?_eq_lambda_iff {s : String} :
    ofName? s = some .lambda ↔ Text.upper s = "LAMBDA" ∨ Text.upper s = "Λ" := by
  by_cases hgreek : Text.upper s = "Λ"
  · simp [ofName?_of_greek hgreek, hgreek]
  · rw [ofName?_of_ne_greek hgreek, named?_eq_some_iff]
    simp [hgreek, name, eq_comm]

theorem ofName?_eq_lambda_iff_spellsLambda {s : String} :
    ofName? s = some .lambda ↔ SpellsLambda s := by
  have hlatin : Text.upper s = "LAMBDA" ↔ Text.IsCasing "lambda" "LAMBDA" s :=
    Text.CaseMapping.SendsCasings.text_eq_iff (by decide +kernel)
  have hgreek : Text.upper s = "Λ" ↔ Text.IsCasing "λ" "Λ" s :=
    Text.CaseMapping.SendsCasings.text_eq_iff (by decide +kernel)
  rw [ofName?_eq_lambda_iff, hlatin, hgreek, SpellsLambda]

theorem ofName?_eq_lambda_iff_isLambdaName {s : String} :
    ofName? s = some .lambda ↔ isLambdaName s = true :=
  ofName?_eq_lambda_iff_spellsLambda.trans isLambdaName_iff.symm

/-- The names of the form for anonymous functions are symbols. -/
theorem isSymbolLiteral_of_lambda {s : String} (h : ofName? s = some .lambda) :
    isSymbolLiteral s = true := by
  rcases ofName?_eq_lambda_iff.1 h with h | h <;>
    exact isSymbolLiteral_of_upper h (by decide) (by decide +kernel)

end SpecialForm

/-! ## Functions -/

/-- Formals and bodies are never refused for the name of the function. -/
theorem Function.make_ne_reservedName (origin : Origin) (formals body : Sexp) :
    make origin formals body ≠ .error .reservedName := by
  intro h
  rw [make] at h
  split at h
  · cases h
  · split at h
    · cases h
    · cases hnames : paramNames [] formals.items with
      | ok names => rw [hnames] at h; cases h
      | error e =>
        rw [hnames] at h
        cases h
        rcases kind_of_paramNames hnames with hkind | hkind <;> cases hkind

theorem Environment.namedFunction_eq_reserved_iff (name : String) (formals body : Sexp) :
    namedFunction name formals body = .error .reservedName ↔ isLambdaName name = true := by
  rw [namedFunction]
  split
  · next hname => exact ⟨fun _ => hname, fun _ => rfl⟩
  · next hname =>
    exact ⟨fun h => absurd h (Function.make_ne_reservedName _ formals body),
      fun h => absurd h hname⟩

/-- The names that are refused are those of the form for anonymous functions. -/
theorem Eval.registerFunction_reserved_iff (name : String) (formals body : Sexp) (m : Machine) :
    registerFunction name formals body m = some (.error .reservedName, m) ↔
      SpecialForm.ofName? name = some .lambda := by
  rw [SpecialForm.ofName?_eq_lambda_iff_isLambdaName,
    ← Environment.namedFunction_eq_reserved_iff name formals body, registerFunction_run]
  cases Environment.namedFunction name formals body with
  | ok fn => simp
  | error e => simp

/-- A well-formed environment has no function that the form for anonymous functions would hide. -/
theorem Environment.WellFormed.get?_functions_of_lambda {env : Environment} (h : env.WellFormed)
    {name : String} (hname : SpecialForm.ofName? name = some .lambda) :
    env.functions.get? name = none := by
  cases hfn : env.functions.get? name with
  | none => rfl
  | some fn =>
    have hother := (h.named hfn).2.1
    rw [SpecialForm.ofName?_eq_lambda_iff_isLambdaName.1 hname] at hother
    cases hother

/-! ## Forms -/

namespace Atom

variable {a : Atom}

theorem text_of_lambda (h : SpecialForm.ofName? a.lit = some .lambda) : a.text = a.lit :=
  (text_of_isSymbolLiteral (SpecialForm.isSymbolLiteral_of_lambda h)).1

/-- A symbol with such a name stands for no constant, so a list with it in front is a call. -/
theorem isConstant_of_lambda (h : SpecialForm.ofName? a.lit = some .lambda) :
    a.isConstant = false := by
  have hint : a.isInt = false :=
    isIntegerLiteral_of_isSymbolLiteral (SpecialForm.isSymbolLiteral_of_lambda h)
  have hnil : a.lit ≠ "NIL" := fun heq => absurd (heq ▸ h) (by decide)
  have ht : a.lit ≠ "T" := fun heq => absurd (heq ▸ h) (by decide)
  simp [isConstant, hint, isNil, hnil, isTrue, ht]

/-- Forms go by the text that is shown and calls by the literal. For these names it is the same. -/
theorem isLambdaName_text_iff :
    isLambdaName a.text = true ↔ SpecialForm.ofName? a.lit = some .lambda := by
  constructor
  · intro hname
    have hsymbol := isSymbolLiteral_of_isLambdaName_text hname
    rw [(text_of_isSymbolLiteral hsymbol).1] at hname
    exact SpecialForm.ofName?_eq_lambda_iff_isLambdaName.2 hname
  · intro h
    rw [text_of_lambda h]
    exact SpecialForm.ofName?_eq_lambda_iff_isLambdaName.1 h

end Atom

/-- An expression has the form of an anonymous function exactly if it is a list of three that begins
    with a name of the form for anonymous functions. -/
theorem Sexp.isLambdaForm_iff {x : Sexp} :
    x.isLambdaForm = true ↔ ∃ a formals body, x = .list (.atom a) [formals, body] ∧
      SpecialForm.ofName? a.lit = some .lambda := by
  simp only [isLambdaForm_iff_exists, Atom.isLambdaName_text_iff]

/-- Under any of its names the form is evaluated in all environments, and always ends. -/
theorem evaluates_lambda_iff {a : Atom} (h : SpecialForm.ofName? a.lit = some .lambda)
    {args : List Sexp} {m m' : Machine} {r : Except Error Sexp} :
    Evaluates (.list (.atom a) args) m r m' ↔
      SpecialForm.evaluateLambda args m = some (r, m') := by
  have htarget : m.env.target? a.lit = some (.special .lambda) :=
    Environment.target?_eq_special_iff.2 h
  have hrun (fuel : Nat) : evaluate (fuel + 1) (.list (.atom a) args) m =
      SpecialForm.evaluateLambda args m :=
    evaluate_named (Atom.isConstant_of_lambda h) htarget fuel args
  constructor
  · rintro ⟨_ | fuel, hfinished⟩
    · cases hfinished
    · exact (hrun fuel).symm.trans hfinished
  · intro hfinished
    exact ⟨1, (hrun 0).trans hfinished⟩

/-- For all names, symbols or not: the form for anonymous functions has the name exactly if it is
    reserved for anonymous functions, and these are the casings of the Latin word and the Greek letter.
    So a function is refused for its name exactly if the form has this name, and whatever is done with
    a fresh environment, it has no function of such a name. An expression has the form of an anonymous
    function exactly if it is a list of three with a symbol in front that refers to the form in all
    environments, and is evaluated by its rule. -/
theorem lambda_names_agree :
    (∀ s, (SpecialForm.ofName? s = some .lambda ↔ isLambdaName s = true) ∧
      (isLambdaName s = true ↔ SpellsLambda s)) ∧
    (∀ name formals body m,
      Eval.registerFunction name formals body m = some (.error .reservedName, m) ↔
        SpecialForm.ofName? name = some .lambda) ∧
    (∀ ops output trace m,
      Operation.Runs ops { env := {}, output := output, trace := trace } m →
        ∀ name, SpecialForm.ofName? name = some .lambda → m.env.functions.get? name = none) ∧
    ∀ x : Sexp, x.isLambdaForm = true ↔ ∃ a formals body, x = .list (.atom a) [formals, body] ∧
      (∀ env : Environment, env.target? a.lit = some (.special .lambda)) ∧
      ∀ m r m', Evaluates x m r m' ↔
        SpecialForm.evaluateLambda [formals, body] m = some (r, m') := by
  refine ⟨fun s => ⟨SpecialForm.ofName?_eq_lambda_iff_isLambdaName, isLambdaName_iff⟩,
    Eval.registerFunction_reserved_iff, ?_, fun x => Sexp.isLambdaForm_iff.trans ⟨?_, ?_⟩⟩
  · intro ops output trace m hruns name hname
    exact (hruns.wellFormed .fresh).get?_functions_of_lambda hname
  · rintro ⟨a, formals, body, rfl, hname⟩
    exact ⟨a, formals, body, rfl, fun env => Environment.target?_eq_special_iff.2 hname,
      fun m r m' => evaluates_lambda_iff hname⟩
  · rintro ⟨a, formals, body, rfl, htarget, -⟩
    exact ⟨a, formals, body, rfl, Environment.target?_eq_special_iff.1 (htarget {})⟩

/-- `lAMbdA` is such a name. `LAMBDẚ` is none, although its last letter becomes an `A` and a mark in
    capitals. A registration under `Λ` and a definition of `lAMbdA` fail, and `(λ (X) (CAR X))` gives
    `(LAMBDA (X) (CAR X))`. -/
theorem lambda_names_agree_mixed :
    let x : Sexp := .atom ⟨"X", by decide⟩
    let car : Sexp := .list (.atom ⟨"CAR", by decide⟩) [x]
    let form : Sexp := .list (.atom ⟨"λ", by decide⟩) [.list x [], car]
    let definition : Sexp :=
      .list (.atom ⟨"DEFUN", by decide⟩) [.atom ⟨"lAMbdA", by decide⟩, .list x [], car]
    let ops : List Operation := [.registerFunction "Λ" .nil .nil, .evaluate (.sexp definition)]
    SpecialForm.ofName? "lAMbdA" = some .lambda ∧ SpellsLambda "lAMbdA" ∧
      SpecialForm.ofName? "LAMBDẚ" ≠ some .lambda ∧
      Eval.registerFunction "Λ" .nil .nil {} = some (.error .reservedName, {}) ∧
      (∃ m, Operation.Runs ops {} m ∧ m.env.functions.get? "lAMbdA" = none) ∧
      form.isLambdaForm = true ∧
      ∃ m, Evaluates form {} (.ok (.list (.atom .lambda) [.list x [], car])) m := by
  intro x car form definition ops
  obtain ⟨hnames, hrefused, hnone, hforms⟩ := lambda_names_agree
  have hmixed : isLambdaName "lAMbdA" = true := by decide
  have hlong : isLambdaName "LAMBDẚ" = false := by decide
  have hgreek : isLambdaName "Λ" = true := by decide
  have hruns : Operation.Runs ops {} _ := .cons 1 rfl <| .cons 1 rfl <| .nil _
  have hspecial := (hnames "lAMbdA").1.2 hmixed
  have hform : form.isLambdaForm = true := by decide
  obtain ⟨a, formals, body, hshape, -, hevaluates⟩ := (hforms form).1 hform
  obtain ⟨rfl, rfl⟩ : formals = .list x [] ∧ body = car := by
    rw [Sexp.list.injEq] at hshape
    simpa [eq_comm] using hshape.2
  refine ⟨hspecial, (hnames "lAMbdA").2.1 hmixed, fun h => ?_,
    (hrefused "Λ" .nil .nil {}).2 ((hnames "Λ").1.2 hgreek),
    ⟨_, hruns, hnone ops "" [] _ hruns "lAMbdA" hspecial⟩, hform, _, (hevaluates {} _ _).2 rfl⟩
  exact absurd ((hnames "LAMBDẚ").1.1 h) (by simp [hlong])

end MiniLisp
