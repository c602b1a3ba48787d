import MiniLisp.Proofs.Evaluation.Coupling
import MiniLisp.Proofs.Reading.RoundTrip

/-! # Evaluation invents no atoms

Values become code and code becomes values, but every atom that evaluation does not take from what
it was given is a truth value, an integer or the symbol in front of anonymous functions. The literals
that the reader can make include all of these, so what a program that was read computes and prints
can be read back. -/

namespace MiniLisp

/-! ## Lines -/

/-- The text of expressions, each on a line of its own. -/
def Sexp.lines : List Sexp → String
  | [] => ""
  | x :: xs => x.render ++ "\n" ++ lines xs

theorem Sexp.lines_concat (xs : List Sexp) (x : Sexp) :
    lines (xs ++ [x]) = lines xs ++ (x.render ++ "\n") := by
  induction xs with
  | nil => simp [lines]
  | cons y ys ih => simp only [List.cons_append, lines, ih, String.append_assoc]

/-! ## Machines over a set of literals -/

/-- All atoms in the values of variables, and in the formals and bodies of functions, have their
    literals in the set. -/
structure Machine.Over (S : Set String) (m : Machine) : Prop where
  value : ∀ {name} {v : Sexp}, m.env.vars.get? name = some v → v.Over S
  function : ∀ {name fn}, m.env.functions.get? name = some fn → fn.formals.Over S ∧ fn.body.Over S

/-- What is new since the machine `before` has its literals in the set: the names, formals and
    bodies of functions, and the lines that were printed. -/
def overLiterals {S : Set String} (hS : Sexp.ClosedLiterals S) (before : Machine) : Invariant where
  bounds := ⟨S, fun _ => True, fun _ => True⟩
  function name fn := (before.env.functions.get? name = some fn ∨ name ∈ S) ∧
    fn.formals.Over S ∧ fn.body.Over S
  output text := ∃ printed, text = before.output ++ Sexp.lines printed ∧ ∀ x ∈ printed, x.Over S
  closed := ⟨hS, fun _ _ => trivial, fun _ => trivial⟩
  callable h := ⟨h.2.2, trivial, trivial⟩
  defined := by
    intro name fn formals body hmake hname hformals hbody
    obtain ⟨-, rfl, rfl, -⟩ := Function.make_eq_ok (Environment.namedFunction_eq_ok hmake).2
    exact ⟨Or.inr hname, hformals, hbody⟩
  printed := by
    rintro text x ⟨printed, rfl, hprinted⟩ hx
    refine ⟨printed ++ [x], ?_, ?_⟩
    · rw [Sexp.lines_concat, String.append_assoc]
    · intro y hy
      rcases List.mem_append.1 hy with hy | hy
      · exact hprinted y hy
      · exact List.mem_singleton.1 hy ▸ hx

namespace Machine.Over

variable {S : Set String} {m m' : Machine}

theorem holds (hS : Sexp.ClosedLiterals S) (h : m.Over S) : (overLiterals hS m).Holds m where
  value := h.value
  function hfn := ⟨Or.inl hfn, h.function hfn⟩
  output := ⟨[], by simp [Sexp.lines], nofun⟩

theorem of_holds {hS : Sexp.ClosedLiterals S} (h : (overLiterals hS m).Holds m') : m'.Over S where
  value := h.value
  function hfn := (h.function hfn).2

end Machine.Over

/-! ## Programs that were read -/

/-- The literals of the atoms that the reader makes. -/
def readerLiterals : Set String :=
  {s | isIntegerLiteral s = false →
    s = "NIL" ∨ s = "T" ∨ Text.upper s ≠ "NIL" ∧ Text.upper s ≠ "T"}

theorem Sexp.over_readerLiterals {x : Sexp} : x.Over readerLiterals ↔ x.Readable := by
  have hsymbol : ∀ a : Atom, a.isSymbol = true ↔ isIntegerLiteral a.lit = false := by
    intro a
    rw [Atom.isSymbol, Atom.isInt, Bool.not_eq_true']
  exact ⟨fun h a ha hs => h a ha ((hsymbol a).1 hs), fun h a ha hs => h a ha ((hsymbol a).2 hs)⟩

theorem isIntegerLiteral_canonical (n : Int) :
    isIntegerLiteral (String.ofList (Numeral.canonical n)) = true := by
  rw [isIntegerLiteral, String.toList_ofList, Numeral.isNumeral_canonical]

theorem closedLiterals_readerLiterals : Sexp.ClosedLiterals readerLiterals where
  nil_mem _ := Or.inl rfl
  t_mem _ := Or.inr (Or.inl rfl)
  lambda_mem _ := Or.inr (Or.inr (by decide))
  integer_mem n hsymbol := by
    rw [isIntegerLiteral_canonical] at hsymbol
    cases hsymbol

/-- Between the forms of programs that were read, functions are made of what the reader makes. -/
theorem Program.Reached.over {m : Machine} (h : Program.Reached m) : m.Over readerLiterals := by
  refine Program.Reached.of_kept ⟨?_, fun _ _ hm => ⟨hm.value, hm.function⟩⟩ ⟨nofun, nofun⟩ h
  intro fuel source form m r m' hform hrun hm
  have hreadable := Sexp.over_readerLiterals.2 (readable_of_mem_read hform)
  exact .of_holds ((hm.holds closedLiterals_readerLiterals).evaluate hreadable hrun).2

/-- The text of the expression reads as the expression, less the pluses in front of integers. -/
def Sexp.ReadsBack (x : Sexp) : Prop := read x.render = ⟨[x.unsigned], none, []⟩

theorem Sexp.readsBack_of_over {x : Sexp} (h : x.Over readerLiterals) : x.ReadsBack :=
  read_render_eq (Sexp.over_readerLiterals.1 h)

/-- Take a set of literals that contains those of truth values, of integers and of `LAMBDA`. If an
    expression, the variables and the functions have all their literals in the set, then so has the
    value of the expression, and so has everything about functions that was not there before. This
    holds in particular of the literals that the reader makes: the values of forms that were read,
    and the lines that are printed meanwhile, can be read back. -/
theorem evaluates_invents_no_atoms :
    (∀ S : Set String, Sexp.ClosedLiterals S →
      ∀ (x : Sexp) (m : Machine) (r : Except Error Sexp) (m' : Machine),
        x.Over S → m.Over S → Evaluates x m r m' →
          (∀ v, r = .ok v → v.Over S) ∧
          ∀ name fn, m'.env.functions.get? name = some fn →
            (m.env.functions.get? name = some fn ∨ name ∈ S) ∧
              fn.formals.Over S ∧ fn.body.Over S) ∧
      ∀ m, Program.Reached m → ∀ source, ∀ form ∈ (read source).forms, ∀ r m',
        Evaluates form m r m' →
          (∀ v, r = .ok v → v.ReadsBack) ∧
          ∃ printed, m'.output = m.output ++ Sexp.lines printed ∧ ∀ x ∈ printed, x.ReadsBack := by
  refine ⟨?_, ?_⟩
  · rintro S hS x m r m' hx hm ⟨fuel, h⟩
    obtain ⟨hend, hm'⟩ := (hm.holds hS).evaluate hx h
    exact ⟨fun v hv => by subst hv; exact hend, fun name fn => hm'.function⟩
  · rintro m hreached source form hform r m' ⟨fuel, h⟩
    have hx := Sexp.over_readerLiterals.2 (readable_of_mem_read hform)
    obtain ⟨hend, hm'⟩ := (hreached.over.holds closedLiterals_readerLiterals).evaluate hx h
    obtain ⟨printed, houtput, hprinted⟩ := hm'.output
    refine ⟨?_, printed, houtput, fun x hx => Sexp.readsBack_of_over (hprinted x hx)⟩
    rintro v rfl
    exact Sexp.readsBack_of_over hend

/-- `(DEFUN F (X) (CAR X))` brings in no literals besides its own, and what
    `(PRINT (CONS +7 '(A)))` prints can be read. -/
theorem evaluates_invents_no_atoms_definition :
    let S : Set String :=
      {s | isIntegerLiteral s = true ∨ s ∈ ["NIL", "T", "LAMBDA", "DEFUN", "F", "X", "CAR"]}
    let f : Sexp := .atom ⟨"F", by decide⟩
    let x : Sexp := .atom ⟨"X", by decide⟩
    let form : Sexp := .list (.atom ⟨"DEFUN", by decide⟩)
      [f, .list x [], .list (.atom ⟨"CAR", by decide⟩) [x]]
    (∃ m', Evaluates form {} (.ok f) m' ∧ f.Over S ∧
      ∀ name fn, m'.env.functions.get? name = some fn →
        name ∈ S ∧ fn.formals.Over S ∧ fn.body.Over S) ∧
    ∃ form ∈ (read "(PRINT (CONS +7 '(A)))").forms, ∃ r m', Evaluates form {} r m' ∧
      m'.output = "(7 A)\n" ∧ (∀ v, r = .ok v → v.ReadsBack) ∧
      ∃ printed, m'.output = "" ++ Sexp.lines printed ∧ ∀ x ∈ printed, x.ReadsBack := by
  intro S f x form
  have hS : Sexp.ClosedLiterals S := ⟨Or.inr (by decide), Or.inr (by decide), Or.inr (by decide),
    fun n => Or.inl (isIntegerLiteral_canonical n)⟩
  have hform : form.Over S := fun a ha => Or.inr (by revert a; decide)
  have hdefined : Evaluates form {} (.ok f) _ := ⟨1, rfl⟩
  obtain ⟨hvalue, hfunctions⟩ := evaluates_invents_no_atoms.1 S hS form {} _ _ hform
    ⟨nofun, nofun⟩ hdefined
  refine ⟨⟨_, hdefined, hvalue f rfl, fun name fn hfn => ?_⟩, ?_⟩
  · obtain ⟨hold | hname, hparts⟩ := hfunctions name fn hfn
    · cases hold
    · exact ⟨hname, hparts⟩
  · have hprints : (read "(PRINT (CONS +7 '(A)))").forms.map
        (fun form => (evaluate 5 form {}).map (·.2.output)) = [some "(7 A)\n"] := by decide +kernel
    obtain ⟨printing, hforms, hrun⟩ := List.map_eq_singleton_iff.1 hprints
    obtain ⟨⟨r, m'⟩, hrun, houtput⟩ := Option.map_eq_some_iff.1 hrun
    have hmem : printing ∈ (read "(PRINT (CONS +7 '(A)))").forms :=
      hforms ▸ List.mem_singleton_self printing
    exact ⟨printing, hmem, r, m', ⟨5, hrun⟩, houtput,
      evaluates_invents_no_atoms.2 {} .fresh _ printing hmem r m' ⟨5, hrun⟩⟩
end MiniLisp
