import MiniLisp.Program

/-! # Programs as lists of forms

A program is read while it runs. What is read does not depend on what is evaluated, so a program does
what its forms do one after the other when all of them have been read before, and an error in reading
comes last. `values_eq_map` and `run_eq_map` say so for the two ways to run a program. -/

namespace MiniLisp

/-- Where some of the forms of tokens have been read, the tokens that are left have the others and
    the error that ends the reading. -/
theorem Reading.exists_rest_of_forms {toks : List Token} {done others : List Sexp}
    (h : (ofTokens toks).forms = done ++ others) :
    ∃ rest, (ofTokens rest).forms = others ∧ (ofTokens rest).failure = (ofTokens toks).failure := by
  induction done generalizing toks with
  | nil => exact ⟨toks, h, rfl⟩
  | cons x done ih =>
    obtain ⟨r, rest, hform⟩ : ∃ r rest, form toks = (r, rest) := ⟨_, _, rfl⟩
    by_cases hread : ∃ y, r = .ok (some y)
    · obtain ⟨y, rfl⟩ := hread
      rw [ofTokens_of_form hform] at h ⊢
      exact ih (List.cons.inj h).2
    · rw [ofTokens_of_end hform (not_exists.1 hread)] at h
      cases h

namespace Program

/-- Evaluates forms up to the first error, with the values so far. -/
def iterate (fuel : Nat) : List Sexp → Machine → Option ((List Sexp × Option Error) × Machine)
  | [], m => some (([], none), m)
  | form :: forms, m =>
    match evaluate fuel form m with
    | none => none
    | some (.error e, m) => some (([], some e), m)
    | some (.ok value, m) =>
      match iterate fuel forms m with
      | none => none
      | some ((values, failure), m) => some ((value :: values, failure), m)

/-- Evaluates forms and prints their values. A form that fails is reported, and makes the status 1;
    the forms after it are evaluated all the same. -/
def runForms (fuel : Nat) (debug : Bool) (traceback : Traceback) (status : Nat) :
    List Sexp → Machine → Option (Nat × Machine)
  | [], m => some (status, m)
  | form :: forms, m =>
    match evaluate fuel form m with
    | none => none
    | some (.ok value, m) => runForms fuel debug traceback status forms (printValue value m)
    | some (.error e, m) =>
      runForms fuel debug traceback 1 forms (fail debug traceback (.evaluationFailed form e) e m)

/-- The status and the machine at the end of a program, from those after its forms. -/
def conclude (debug : Bool) (traceback : Traceback) : Option Error → Nat × Machine → Nat × Machine
  | none, p => p
  | some e, (_, m) => (1, fail debug traceback (.readingFailed e) e m)

theorem valuesOfTokens_eq_map (fuel : Nat) (toks : List Token) (m : Machine) :
    valuesOfTokens fuel toks m = (iterate fuel (Reading.ofTokens toks).forms m).map fun p =>
      ((p.1.1, p.1.2.or (Reading.ofTokens toks).failure), p.2) := by
  fun_induction valuesOfTokens fuel toks m with
  | case1 toks m e rest hform => rw [Reading.ofTokens_of_end hform nofun]; rfl
  | case2 toks m rest hform => rw [Reading.ofTokens_of_end hform nofun]; rfl
  | case3 toks m form rest hform hrun =>
    rw [Reading.ofTokens_of_form hform]
    simp only [iterate, hrun, Option.map_none]
  | case4 toks m form rest hform e m' hrun =>
    rw [Reading.ofTokens_of_form hform]
    simp only [iterate, hrun, Option.map_some, Option.some_or]
  | case5 toks m form rest hform value m' hrun hnone ih =>
    rw [hnone, eq_comm, Option.map_eq_none_iff] at ih
    rw [Reading.ofTokens_of_form hform]
    simp only [iterate, hrun, ih, Option.map_none]
  | case6 toks m form rest hform value m' hrun values failure m'' hsome ih =>
    rw [hsome, eq_comm, Option.map_eq_some_iff] at ih
    obtain ⟨p, hiterate, hp⟩ := ih
    cases hp
    rw [Reading.ofTokens_of_form hform]
    simp only [iterate, hrun, hiterate, Option.map_some]

theorem runTokens_eq_map (fuel : Nat) (debug : Bool) (traceback : Traceback) (status : Nat)
    (toks : List Token) (m : Machine) :
    runTokens fuel debug traceback status toks m =
      (runForms fuel debug traceback status (Reading.ofTokens toks).forms m).map
        (conclude debug traceback (Reading.ofTokens toks).failure) := by
  fun_induction runTokens fuel debug traceback status toks m with
  | case1 status toks m e rest hform => rw [Reading.ofTokens_of_end hform nofun]; rfl
  | case2 status toks m rest hform => rw [Reading.ofTokens_of_end hform nofun]; rfl
  | case3 status toks m form rest hform hrun =>
    rw [Reading.ofTokens_of_form hform]
    simp only [runForms, hrun, Option.map_none]
  | case4 status toks m form rest hform e m' hrun ih =>
    rw [Reading.ofTokens_of_form hform]
    simp only [runForms, hrun, ih]
  | case5 status toks m form rest hform value m' hrun ih =>
    rw [Reading.ofTokens_of_form hform]
    simp only [runForms, hrun, ih]

theorem values_eq_map (fuel : Nat) (source : String) (m : Machine) :
    values fuel source m = (iterate fuel (read source).forms m).map fun p =>
      ((p.1.1, p.1.2.or (read source).failure), p.2) :=
  valuesOfTokens_eq_map fuel (Token.lex source) m

theorem run_eq_map (fuel : Nat) (debug : Bool) (source : String) (m : Machine)
    (traceback : Traceback) :
    run fuel debug source m traceback =
      (runForms fuel debug traceback 0 (read source).forms m).map
        (conclude debug traceback (read source).failure) :=
  runTokens_eq_map fuel debug traceback 0 (Token.lex source) m

end Program

end MiniLisp
