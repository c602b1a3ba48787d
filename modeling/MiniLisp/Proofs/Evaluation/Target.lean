import MiniLisp.Evaluation

/-! # What names refer to

The order in which the meanings of a name are looked for, as a relation: special forms come first, then
functions, primitives, and variables that hold anonymous functions. `target?_eq_some_iff` says that the
search follows it, and a proof about targets goes through the cases of the relation. -/

namespace MiniLisp

/-! ## Names of special forms and primitives -/

theorem Primitive.ofName?_name (p : Primitive) : ofName? p.name = some p := by
  cases p <;> decide

theorem Primitive.upper_eq_name {s : String} {p : Primitive} (h : ofName? s = some p) :
    Text.upper s = p.name := by
  have hname := List.find?_some h
  exact (of_decide_eq_true hname).symm

theorem SpecialForm.named?_name (f : SpecialForm) : named? f.name = some f := by
  cases f <;> decide

/-- No primitive has the name of a special form. -/
theorem Primitive.named?_name (p : Primitive) : SpecialForm.named? p.name = none := by
  cases p <;> decide

theorem SpecialForm.ofName?_of_greek {s : String} (h : Text.upper s = "Λ") :
    ofName? s = some .lambda :=
  if_pos h

theorem SpecialForm.ofName?_of_ne_greek {s : String} (h : Text.upper s ≠ "Λ") :
    ofName? s = named? (Text.upper s) :=
  if_neg h

theorem SpecialForm.ofName?_of_primitive {s : String} {p : Primitive}
    (h : Primitive.ofName? s = some p) : ofName? s = none := by
  have hgreek : p.name ≠ "Λ" := by cases p <;> decide
  rw [← Primitive.upper_eq_name h] at hgreek
  rw [ofName?_of_ne_greek hgreek, Primitive.upper_eq_name h, p.named?_name]

theorem Primitive.ofName?_of_greek {s : String} (h : Text.upper s = "Λ") : ofName? s = none := by
  cases hprimitive : ofName? s with
  | none => rfl
  | some p =>
    have hspecial := SpecialForm.ofName?_of_primitive hprimitive
    rw [SpecialForm.ofName?_of_greek h] at hspecial
    cases hspecial

/-! ## Targets -/

namespace Environment

/-- The name refers to the target. Every kind of target is for names that no kind before it has. -/
inductive RefersTo (env : Environment) (name : String) : Target → Prop where
  | special {f : SpecialForm} (found : SpecialForm.ofName? name = some f) :
      RefersTo env name (.special f)
  | function {fn : Function} (notSpecial : SpecialForm.ofName? name = none)
      (found : env.functions.get? name = some fn) : RefersTo env name (.function fn)
  | primitive {p : Primitive} (notSpecial : SpecialForm.ofName? name = none)
      (notFunction : env.functions.get? name = none) (found : Primitive.ofName? name = some p) :
      RefersTo env name (.primitive p)
  | lambda {form : Sexp} (notSpecial : SpecialForm.ofName? name = none)
      (notFunction : env.functions.get? name = none) (notPrimitive : Primitive.ofName? name = none)
      (found : env.vars.get? name = some form) (isLambda : form.isLambdaForm = true) :
      RefersTo env name (.lambda form)

variable {env : Environment} {name : String}

theorem target?_eq_some_iff {target : Target} :
    env.target? name = some target ↔ env.RefersTo name target := by
  constructor
  · intro h
    rw [target?] at h
    split at h
    · next hspecial =>
      cases h
      exact .special hspecial
    · next hspecial =>
      split at h
      · next hfunction =>
        cases h
        exact .function hspecial hfunction
      · next hfunction =>
        split at h
        · next hprimitive =>
          cases h
          exact .primitive hspecial hfunction hprimitive
        · next hprimitive =>
          split at h
          · next hvalue =>
            split at h
            · next hlambda =>
              cases h
              exact .lambda hspecial hfunction hprimitive hvalue hlambda
            · cases h
          · cases h
  · intro h
    cases h with
    | special found => simp only [target?, found]
    | function notSpecial found => simp only [target?, notSpecial, found]
    | primitive notSpecial notFunction found =>
      simp only [target?, notSpecial, notFunction, found]
    | lambda notSpecial notFunction notPrimitive found isLambda =>
      simp only [target?, notSpecial, notFunction, notPrimitive, found, isLambda, if_true]

theorem target?_eq_special_iff {f : SpecialForm} :
    env.target? name = some (.special f) ↔ SpecialForm.ofName? name = some f := by
  rw [target?_eq_some_iff]
  refine ⟨fun h => ?_, .special⟩
  cases h with
  | special found => exact found

theorem target?_eq_function_iff {fn : Function} :
    env.target? name = some (.function fn) ↔
      SpecialForm.ofName? name = none ∧ env.functions.get? name = some fn := by
  rw [target?_eq_some_iff]
  refine ⟨fun h => ?_, fun h => .function h.1 h.2⟩
  cases h with
  | function notSpecial found => exact ⟨notSpecial, found⟩

theorem target?_eq_primitive_iff {p : Primitive} :
    env.target? name = some (.primitive p) ↔
      env.functions.get? name = none ∧ Primitive.ofName? name = some p := by
  rw [target?_eq_some_iff]
  refine ⟨fun h => ?_, fun h => .primitive (SpecialForm.ofName?_of_primitive h.2) h.1 h.2⟩
  cases h with
  | primitive _ notFunction found => exact ⟨notFunction, found⟩

end Environment

end MiniLisp
