import MiniLisp.Editor.Report
import MiniLisp.Proofs.Evaluation.Rules
import MiniLisp.Proofs.Table

/-! # What a word is described as, and what a call of it runs

An editor describes a word by the primitive, the special form or the function of its name, in this order.
Evaluation looks for special forms first and for functions before primitives, and knows the form for
anonymous functions by its Greek letter too. So the description is that of what a call runs, except for
functions with the name of a primitive and for the Greek letter. -/

namespace MiniLisp

/-! ## Descriptions

Signatures differ from each other in the name that they begin with, and from the descriptions of functions
in that these have a dash. So a description tells what it describes. -/

/-- The word after the parenthesis that a description begins with. -/
def describedName (description : String) : String :=
  String.ofList ((description.toList.drop 1).takeWhile (· ≠ ' '))

theorem SpecialForm.describedName_signature (f : SpecialForm) :
    describedName f.signature = f.name := by
  cases f <;> decide

theorem Primitive.describedName_signature (p : Primitive) :
    describedName p.signature = p.name := by
  cases p <;> decide

theorem SpecialForm.signature_inj {f g : SpecialForm} (h : f.signature = g.signature) : f = g := by
  have hname := congrArg describedName h
  rw [describedName_signature, describedName_signature] at hname
  have hsome := named?_name f
  rw [hname, named?_name] at hsome
  exact (Option.some.inj hsome).symm

theorem Primitive.signature_inj {p q : Primitive} (h : p.signature = q.signature) : p = q := by
  have hname := congrArg describedName h
  rw [describedName_signature, describedName_signature] at hname
  have hsome := ofName?_name p
  rw [hname, ofName?_name] at hsome
  exact (Option.some.inj hsome).symm

theorem Primitive.signature_ne (p : Primitive) (f : SpecialForm) : p.signature ≠ f.signature := by
  intro h
  have hname := congrArg describedName h
  rw [describedName_signature, SpecialForm.describedName_signature] at hname
  have hnone := p.named?_name
  rw [hname, SpecialForm.named?_name] at hnone
  cases hnone

namespace Editor.Index

theorem dash_mem_describeFunction (word : String) (d : Definition) :
    '-' ∈ (describeFunction word d).toList := by
  simp [describeFunction]

theorem describeFunction_ne (word : String) (d : Definition) :
    (∀ f : SpecialForm, describeFunction word d ≠ f.signature) ∧
      ∀ p : Primitive, describeFunction word d ≠ p.signature := by
  have hdash := dash_mem_describeFunction word d
  refine ⟨fun f h => ?_, fun p h => ?_⟩
  · rw [h] at hdash
    revert hdash
    cases f <;> decide
  · rw [h] at hdash
    revert hdash
    cases p <;> decide

variable {index : Index} {word : String}

theorem describe_of_primitive {p : Primitive} (h : Primitive.ofName? word = some p) :
    index.describe word = some p.signature := by
  rw [describe, h]

theorem describe_of_special {f : SpecialForm} (h : SpecialForm.named? (Text.upper word) = some f) :
    index.describe word = some f.signature := by
  have hprimitive : Primitive.ofName? word = none := by
    cases hp : Primitive.ofName? word with
    | none => rfl
    | some p =>
      have hnone := p.named?_name
      rw [← Primitive.upper_eq_name hp, h] at hnone
      cases hnone
  rw [describe, hprimitive, h]

theorem describe_of_neither (hprimitive : Primitive.ofName? word = none)
    (hspecial : SpecialForm.named? (Text.upper word) = none) :
    index.describe word = (index.functions.get? word).map (describeFunction word) := by
  rw [describe, hprimitive, hspecial]

theorem describe_of_greek (h : Text.upper word = "Λ") :
    index.describe word = (index.functions.get? word).map (describeFunction word) := by
  refine describe_of_neither (Primitive.ofName?_of_greek h) ?_
  rw [h]
  decide

/-- The ways to a description. -/
theorem describe_cases (index : Index) (word : String) :
    (∃ p, Primitive.ofName? word = some p ∧ index.describe word = some p.signature) ∨
      (∃ f, SpecialForm.named? (Text.upper word) = some f ∧
        index.describe word = some f.signature) ∨
      Primitive.ofName? word = none ∧ SpecialForm.named? (Text.upper word) = none ∧
        index.describe word = (index.functions.get? word).map (describeFunction word) := by
  cases hprimitive : Primitive.ofName? word with
  | some p => exact Or.inl ⟨p, rfl, describe_of_primitive hprimitive⟩
  | none =>
    cases hspecial : SpecialForm.named? (Text.upper word) with
    | some f => exact Or.inr (Or.inl ⟨f, rfl, describe_of_special hspecial⟩)
    | none => exact Or.inr (Or.inr ⟨rfl, rfl, describe_of_neither hprimitive hspecial⟩)

theorem describe_eq_primitive_iff {p : Primitive} :
    index.describe word = some p.signature ↔ Primitive.ofName? word = some p := by
  refine ⟨fun h => ?_, describe_of_primitive⟩
  obtain ⟨q, hq, hshown⟩ | ⟨f, -, hshown⟩ | ⟨-, -, hshown⟩ := index.describe_cases word
  · rw [hshown] at h
    rw [hq, Primitive.signature_inj (Option.some.inj h)]
  · rw [hshown] at h
    exact absurd (Option.some.inj h).symm (p.signature_ne f)
  · rw [hshown] at h
    obtain ⟨d, -, heq⟩ := Option.map_eq_some_iff.1 h
    exact absurd heq ((describeFunction_ne word d).2 p)

theorem describe_eq_special_iff {f : SpecialForm} :
    index.describe word = some f.signature ↔ SpecialForm.named? (Text.upper word) = some f := by
  refine ⟨fun h => ?_, describe_of_special⟩
  obtain ⟨q, -, hshown⟩ | ⟨g, hg, hshown⟩ | ⟨-, -, hshown⟩ := index.describe_cases word
  · rw [hshown] at h
    exact absurd (Option.some.inj h) (q.signature_ne f)
  · rw [hshown] at h
    rw [hg, SpecialForm.signature_inj (Option.some.inj h)]
  · rw [hshown] at h
    obtain ⟨d, -, heq⟩ := Option.map_eq_some_iff.1 h
    exact absurd heq ((describeFunction_ne word d).1 f)

theorem describe_eq_function_iff {d : Definition} :
    index.describe word = some (describeFunction word d) ↔
      Primitive.ofName? word = none ∧ SpecialForm.named? (Text.upper word) = none ∧
        (index.functions.get? word).map (describeFunction word) =
          some (describeFunction word d) := by
  refine ⟨fun h => ?_, fun ⟨hprimitive, hspecial, h⟩ => by
    rw [describe_of_neither hprimitive hspecial, h]⟩
  obtain ⟨q, -, hshown⟩ | ⟨g, -, hshown⟩ | ⟨hprimitive, hspecial, hshown⟩ :=
    index.describe_cases word
  · rw [hshown] at h
    exact absurd (Option.some.inj h).symm ((describeFunction_ne word d).2 q)
  · rw [hshown] at h
    exact absurd (Option.some.inj h).symm ((describeFunction_ne word d).1 g)
  · exact ⟨hprimitive, hspecial, hshown.symm.trans h⟩

theorem describe_eq_none_iff :
    index.describe word = none ↔ Primitive.ofName? word = none ∧
      SpecialForm.named? (Text.upper word) = none ∧ index.functions.get? word = none := by
  obtain ⟨q, hq, hshown⟩ | ⟨g, hg, hshown⟩ | ⟨hprimitive, hspecial, hshown⟩ :=
    index.describe_cases word
  · simp [hshown, hq]
  · simp [hshown, hg]
  · simp [hshown, hprimitive, hspecial]

end Editor.Index

/-! ## Targets -/

namespace Environment

variable {env : Environment}

/-- The symbol refers to the target, and to evaluate a list with the symbol in front is to apply the
    target to the other elements. -/
def Dispatches (env : Environment) (a : Atom) (target : Target) : Prop :=
  env.target? a.lit = some target ∧ ∀ (fuel : Nat) (args : List Sexp) (m : Machine), m.env = env →
    evaluate (fuel + 1) (.list (.atom a) args) m = applyTarget (evaluate fuel) args target m

theorem dispatches_iff {a : Atom} (h : a.isConstant = false) {target : Target} :
    env.Dispatches a target ↔ env.target? a.lit = some target := by
  refine ⟨fun hdispatches => hdispatches.1, fun htarget => ⟨htarget, ?_⟩⟩
  rintro fuel args m rfl
  exact evaluate_named h htarget fuel args

theorem dispatches_function_of_primitive {a : Atom} (h : a.isConstant = false) {p : Primitive}
    {fn : Function} (hprimitive : Primitive.ofName? a.lit = some p)
    (hfn : env.functions.get? a.lit = some fn) : env.Dispatches a (.function fn) := by
  rw [dispatches_iff h, target?_eq_function_iff]
  exact ⟨SpecialForm.ofName?_of_primitive hprimitive, hfn⟩

theorem dispatches_of_greek (env : Environment) {a : Atom} (h : a.isConstant = false)
    (hgreek : Text.upper a.lit = "Λ") : env.Dispatches a (.special .lambda) := by
  rw [dispatches_iff h, target?_eq_special_iff]
  exact SpecialForm.ofName?_of_greek hgreek

end Environment

/-! ## Descriptions of targets -/

namespace Editor.Index

/-- The description of a symbol is that of what a call of it runs: a special form, a function, a
    primitive, or none of these. -/
structure ShowsTarget (index : Index) (env : Environment) (a : Atom) : Prop where
  special : ∀ f : SpecialForm,
    index.describe a.lit = some f.signature ↔ env.Dispatches a (.special f)
  function :
    (∃ d, index.functions.get? a.lit = some d ∧
        index.describe a.lit = some (describeFunction a.lit d)) ↔
      ∃ fn, env.functions.get? a.lit = some fn ∧ env.Dispatches a (.function fn)
  primitive : ∀ p : Primitive,
    index.describe a.lit = some p.signature ↔ env.Dispatches a (.primitive p)
  nothing :
    index.describe a.lit = none ↔
      (∀ f, ¬ env.Dispatches a (.special f)) ∧ (∀ fn, ¬ env.Dispatches a (.function fn)) ∧
        ∀ p, ¬ env.Dispatches a (.primitive p)

section

variable {index : Index} {env : Environment} {a : Atom} (hsymbol : a.isConstant = false)
  (hnames : ∀ name, name ∈ env.functions.keys ↔ name ∈ index.functions.keys)
include hsymbol hnames

/-- A function without the name of a primitive or of a special form is described as one and run. -/
theorem showsFunction_iff (hgreek : Text.upper a.lit ≠ "Λ")
    (hshadow : a.lit ∈ env.functions.keys → Primitive.ofName? a.lit = none) :
    (∃ d, index.functions.get? a.lit = some d ∧
        index.describe a.lit = some (describeFunction a.lit d)) ↔
      ∃ fn, env.functions.get? a.lit = some fn ∧ env.Dispatches a (.function fn) := by
  have hspecial := SpecialForm.ofName?_of_ne_greek hgreek
  constructor
  · rintro ⟨d, hd, hshown⟩
    obtain ⟨-, hnamed, -⟩ := describe_eq_function_iff.1 hshown
    obtain ⟨fn, hfn⟩ := Table.mem_keys_iff.1 ((hnames a.lit).2 (Table.mem_keys_iff.2 ⟨d, hd⟩))
    refine ⟨fn, hfn, (Environment.dispatches_iff hsymbol).2 ?_⟩
    exact Environment.target?_eq_function_iff.2 ⟨hspecial.trans hnamed, hfn⟩
  · rintro ⟨fn, hfn, hdispatches⟩
    have hmem : a.lit ∈ env.functions.keys := Table.mem_keys_iff.2 ⟨fn, hfn⟩
    obtain ⟨d, hd⟩ := Table.mem_keys_iff.1 ((hnames a.lit).1 hmem)
    have hnamed := (Environment.target?_eq_function_iff.1 hdispatches.1).1
    rw [hspecial] at hnamed
    refine ⟨d, hd, ?_⟩
    rw [describe_of_neither (hshadow hmem) hnamed, hd, Option.map_some]

theorem showsNothing_iff (hgreek : Text.upper a.lit ≠ "Λ") :
    index.describe a.lit = none ↔
      (∀ f, ¬ env.Dispatches a (.special f)) ∧ (∀ fn, ¬ env.Dispatches a (.function fn)) ∧
        ∀ p, ¬ env.Dispatches a (.primitive p) := by
  rw [describe_eq_none_iff, ← SpecialForm.ofName?_of_ne_greek hgreek, Table.get?_eq_none_iff,
    ← hnames, ← Table.get?_eq_none_iff]
  simp only [Environment.dispatches_iff hsymbol, Environment.target?_eq_special_iff,
    Environment.target?_eq_function_iff, Environment.target?_eq_primitive_iff]
  constructor
  · rintro ⟨hprimitive, hspecial, hfunction⟩
    simp [hprimitive, hspecial, hfunction]
  · rintro ⟨hspecial, hfunction, hprimitive⟩
    have hspecial := Option.eq_none_iff_forall_ne_some.2 hspecial
    have hfunction := Option.eq_none_iff_forall_ne_some.2 fun fn h => hfunction fn ⟨hspecial, h⟩
    have hprimitive := Option.eq_none_iff_forall_ne_some.2 fun p h => hprimitive p ⟨hfunction, h⟩
    exact ⟨hprimitive, hspecial, hfunction⟩

/-- With the Greek letter and the primitives' names apart, the two orders make no difference. -/
theorem showsTarget_of_no_clash (hgreek : Text.upper a.lit ≠ "Λ")
    (hshadow : a.lit ∈ env.functions.keys → Primitive.ofName? a.lit = none) :
    index.ShowsTarget env a := by
  refine ⟨fun f => ?_, showsFunction_iff hsymbol hnames hgreek hshadow, fun p => ?_,
    showsNothing_iff hsymbol hnames hgreek⟩
  · rw [Environment.dispatches_iff hsymbol, Environment.target?_eq_special_iff,
      SpecialForm.ofName?_of_ne_greek hgreek, describe_eq_special_iff]
  · rw [Environment.dispatches_iff hsymbol, Environment.target?_eq_primitive_iff,
      describe_eq_primitive_iff, Table.get?_eq_none_iff]
    refine ⟨fun hp => ⟨fun hmem => ?_, hp⟩, fun h => h.2⟩
    rw [hshadow hmem] at hp
    cases hp

end

end Editor.Index

namespace Editor

/-- When the description of a symbol other than `T` and `NIL` is that of what a call of it runs, for all
    texts and all environments with functions of the names that the text defines. It is, unless the
    symbol is the Greek letter or a function with the name of a primitive. Such a function is run and
    the primitive described; the letter runs the form for anonymous functions, and is described by the
    function of its name, if any. -/
theorem describe_shows_target_iff (text : String) (env : Environment) (a : Atom)
    (hsymbol : a.isConstant = false)
    (hnames : ∀ name, name ∈ env.functions.keys ↔ name ∈ (Index.of text).functions.keys) :
    ((Index.of text).ShowsTarget env a ↔
        Text.upper a.lit ≠ "Λ" ∧
          (a.lit ∈ env.functions.keys → Primitive.ofName? a.lit = none)) ∧
      (∀ p fn, Primitive.ofName? a.lit = some p → env.functions.get? a.lit = some fn →
        (Index.of text).describe a.lit = some p.signature ∧ env.Dispatches a (.function fn)) ∧
      (Text.upper a.lit = "Λ" →
        (Index.of text).describe a.lit =
            ((Index.of text).functions.get? a.lit).map (Index.describeFunction a.lit) ∧
          env.Dispatches a (.special .lambda)) := by
  refine ⟨⟨fun hshows => ⟨fun hgreek => ?_, fun hmem => ?_⟩, fun ⟨hgreek, hshadow⟩ => ?_⟩,
    fun p fn hprimitive hfn => ⟨Index.describe_of_primitive hprimitive,
      Environment.dispatches_function_of_primitive hsymbol hprimitive hfn⟩,
    fun hgreek => ⟨Index.describe_of_greek hgreek, env.dispatches_of_greek hsymbol hgreek⟩⟩
  · have hshown := (hshows.special .lambda).2 (env.dispatches_of_greek hsymbol hgreek)
    have hnamed := Index.describe_eq_special_iff.1 hshown
    rw [hgreek] at hnamed
    revert hnamed
    decide
  · rw [Option.eq_none_iff_forall_ne_some]
    intro p hprimitive
    have hdispatches := (hshows.primitive p).1 (Index.describe_of_primitive hprimitive)
    have hnone := (Environment.target?_eq_primitive_iff.1 hdispatches.1).1
    exact Table.get?_eq_none_iff.1 hnone hmem
  · exact Index.showsTarget_of_no_clash hsymbol hnames hgreek hshadow

/-- With `ADD` and `plus` defined, `ADD` shows what a call of it runs. `plus` does not: it is described
    as the primitive and runs the function. -/
theorem describe_shows_target_iff_plus :
    let text := "(DEFUN ADD (X Y) (PLUS X Y)) (DEFUN plus (X) (TIMES X 10))"
    let x : Sexp := .atom ⟨"X", by decide⟩
    let y : Sexp := .atom ⟨"Y", by decide⟩
    let ten : Sexp := .atom ⟨"10", by decide⟩
    let add : Function := ⟨.named "ADD", ["X", "Y"], .list x [y], Primitive.plus.form [x, y]⟩
    let plus : Function := ⟨.named "plus", ["X"], .list x [], Primitive.times.form [x, ten]⟩
    let env : Environment := { functions := Table.ofList [("ADD", add), ("plus", plus)] }
    (∀ name, name ∈ env.functions.keys ↔ name ∈ (Index.of text).functions.keys) ∧
      (Index.of text).ShowsTarget env ⟨"ADD", by decide⟩ ∧
      (Index.of text).describe "plus" = some Primitive.plus.signature ∧
      env.Dispatches ⟨"plus", by decide⟩ (.function plus) := by
  intro text x y ten add plus env
  have hnames : ∀ name, name ∈ env.functions.keys ↔ name ∈ (Index.of text).functions.keys := by
    have hkeys : (Index.of text).functions.keys = env.functions.keys := by decide +kernel
    intro name
    rw [hkeys]
  have hadd := describe_shows_target_iff text env ⟨"ADD", by decide⟩ (by decide) hnames
  have hplus := describe_shows_target_iff text env ⟨"plus", by decide⟩ (by decide) hnames
  have hgreek : Text.upper "ADD" ≠ "Λ" := by decide
  have hname : Primitive.ofName? "ADD" = none := by decide
  exact ⟨hnames, hadd.1.2 ⟨hgreek, fun _ => hname⟩, hplus.2.1 .plus plus (by decide) rfl⟩

/-- Not every description is that of what a call runs: a function can have the name of a primitive. -/
theorem describe_shadowed_primitive :
    ¬ ∀ (text : String) (env : Environment) (a : Atom), a.isConstant = false →
      (∀ name, name ∈ env.functions.keys ↔ name ∈ (Index.of text).functions.keys) →
      (Index.of text).ShowsTarget env a := by
  intro h
  let x : Sexp := .atom ⟨"X", by decide⟩
  let plus : Function :=
    ⟨.named "plus", ["X"], .list x [], Primitive.times.form [x, .atom ⟨"10", by decide⟩]⟩
  let env : Environment := { functions := Table.ofList [("plus", plus)] }
  let text := "(DEFUN plus (X) (TIMES X 10))"
  have hnames : ∀ name, name ∈ env.functions.keys ↔ name ∈ (Index.of text).functions.keys := by
    have hkeys : (Index.of text).functions.keys = env.functions.keys := by decide +kernel
    intro name
    rw [hkeys]
  have hshows := h text env ⟨"plus", by decide⟩ (by decide) hnames
  have hprimitive : Primitive.ofName? "plus" = some .plus := by decide
  have hdispatches := (hshows.primitive .plus).1 (Index.describe_of_primitive hprimitive)
  have hnone := (Environment.target?_eq_primitive_iff.1 hdispatches.1).1
  cases hnone

end Editor

end MiniLisp
