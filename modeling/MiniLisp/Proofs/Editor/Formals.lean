import Mathlib.Data.List.Nodup
import MiniLisp.Editor.Index
import MiniLisp.Proofs.Atom
import MiniLisp.Proofs.Function
import MiniLisp.Proofs.Reading.Grammar

/-! # Formals in a text and in a definition

An editor checks formals as they are written and collects everything that is wrong with them; a
definition checks the atoms that are read from them and ends at the first error. Both want distinct
symbols. They differ where different texts are read as one atom, which are the spellings of `NIL` and of
`T`: as texts these are distinct, as atoms they are not. -/

namespace MiniLisp

/-! ## Atoms and their spellings -/

/-- The spellings of the two constants are symbols. -/
theorem isSymbolLiteral_of_constant {s : String}
    (h : Text.upper s = "NIL" ∨ Text.upper s = "T") : isSymbolLiteral s = true := by
  rcases h with h | h <;> exact isSymbolLiteral_of_upper h (by decide) (by decide +kernel)

/-- A text is read as a symbol exactly if it is one. -/
theorem isSymbol_of_readAtom {text : String} {a : Atom} (h : readAtom text = .ok a) :
    a.isSymbol = isSymbolLiteral text := by
  obtain ⟨hnil, rfl⟩ | ⟨ht, rfl⟩ | ⟨rfl, -⟩ := Reading.readAtom_eq_ok h
  · rw [isSymbolLiteral_of_constant (Or.inl hnil)]
    rfl
  · rw [isSymbolLiteral_of_constant (Or.inr ht)]
    rfl
  · rw [Atom.isSymbol, Atom.isInt]
    cases hsymbol : isSymbolLiteral a.lit with
    | true => rw [isIntegerLiteral_of_isSymbolLiteral hsymbol]; rfl
    | false =>
      have hint : isIntegerLiteral a.lit = true :=
        a.isSymbolLiteral_or_isInt.resolve_left (by simp [hsymbol])
      rw [hint]
      rfl

/-- Two texts are spellings of `NIL`, or both are spellings of `T`. -/
def SpellOneConstant (p q : String) : Prop :=
  Text.upper p = Text.upper q ∧ (Text.upper p = "NIL" ∨ Text.upper p = "T")

theorem SpellOneConstant.readAtom_eq {p q : String} (h : SpellOneConstant p q) :
    readAtom p = readAtom q := by
  obtain ⟨hsame, hnil | ht⟩ := h
  · simp [readAtom, ← hsame, hnil]
  · simp [readAtom, ← hsame, ht]

/-- Two texts are read as the same atom exactly if they are the same text or spell one constant. -/
theorem readAtom_eq_iff {p q : String} {a : Atom} (hp : readAtom p = .ok a) :
    readAtom p = readAtom q ↔ p = q ∨ SpellOneConstant p q := by
  refine ⟨fun heq => ?_, ?_⟩
  · have hnil : Text.upper Atom.nil.lit = "NIL" := by decide
    have ht : Text.upper Atom.t.lit = "T" := by decide
    have hdistinct : Atom.nil ≠ Atom.t := by decide
    rw [hp] at heq
    obtain ⟨hupper, rfl⟩ | ⟨hupper, rfl⟩ | ⟨rfl, hnotNil, hnotT⟩ := Reading.readAtom_eq_ok hp
    · obtain ⟨hupper', -⟩ | ⟨-, h⟩ | ⟨-, h, -⟩ := Reading.readAtom_eq_ok heq.symm
      · exact Or.inr ⟨hupper.trans hupper'.symm, Or.inl hupper⟩
      · exact absurd h hdistinct
      · exact absurd hnil h
    · obtain ⟨-, h⟩ | ⟨hupper', -⟩ | ⟨-, -, h⟩ := Reading.readAtom_eq_ok heq.symm
      · exact absurd h.symm hdistinct
      · exact Or.inr ⟨hupper.trans hupper'.symm, Or.inr hupper⟩
      · exact absurd ht h
    · obtain ⟨-, rfl⟩ | ⟨-, rfl⟩ | ⟨hlit, -⟩ := Reading.readAtom_eq_ok heq.symm
      · exact absurd hnil hnotNil
      · exact absurd ht hnotT
      · exact Or.inl hlit
  · rintro (rfl | h)
    · rfl
    · exact h.readAtom_eq

/-! ## What is accepted -/

theorem Sexp.symbols_of_atoms {as : List Atom} {names : List String}
    (h : (as.map Sexp.atom).map Sexp.symbol? = names.map some) :
    (∀ a ∈ as, a.isSymbol = true) ∧ as.map Atom.lit = names := by
  induction as generalizing names with
  | nil =>
    cases names with
    | nil => exact ⟨nofun, rfl⟩
    | cons name names => cases h
  | cons a as ih =>
    cases names with
    | nil => cases h
    | cons name names =>
      simp only [List.map_cons, List.cons.injEq] at h
      obtain ⟨b, hatom, hsymbol, rfl⟩ := Sexp.symbol?_eq_some h.1
      cases hatom
      obtain ⟨hsymbols, rfl⟩ := ih h.2
      exact ⟨List.forall_mem_cons.2 ⟨hsymbol, hsymbols⟩, rfl⟩

/-- A definition accepts as formals the lists of distinct symbols. -/
theorem Function.paramNames_eq_ok_iff {as : List Atom} :
    (∃ names, paramNames [] (as.map Sexp.atom) = .ok names) ↔
      (∀ a ∈ as, a.isSymbol = true) ∧ as.Nodup := by
  have hinjective : Function.Injective Atom.lit := fun a b h => Atom.ext_lit h
  rw [← List.nodup_map_iff hinjective]
  constructor
  · rintro ⟨names, hnames⟩
    obtain ⟨hsymbol, rfl⟩ := Sexp.symbols_of_atoms (symbols_of_paramNames hnames)
    exact ⟨hsymbol, (nodup_of_paramNames hnames).1⟩
  · rintro ⟨hsymbol, hnodup⟩
    exact ⟨_, paramNames_of_nodup hsymbol hnodup fun a _ => List.not_mem_nil⟩

namespace Editor

/-- An editor finds no problem with formals if each is a symbol that is not among the ones before. -/
theorem paramProblemsAfter_eq_nil_iff {seen ps : List String} :
    paramProblemsAfter seen ps = [] ↔
      (∀ p ∈ ps, isSymbolLiteral p = true) ∧ ps.Nodup ∧ ∀ p ∈ ps, p ∉ seen := by
  induction ps generalizing seen with
  | nil => simp [paramProblemsAfter]
  | cons p ps ih =>
    have hopening : isSymbolLiteral "(" = false := by decide
    have hhere : (if p = "(" then [ParamProblem.list]
        else if !isSymbolLiteral p then [.notSymbol p]
        else if seen.contains p then [.duplicate p]
        else []) = [] ↔ isSymbolLiteral p = true ∧ p ∉ seen := by
      by_cases hp : p = "("
      · simp [hp, hopening]
      · cases hsymbol : isSymbolLiteral p <;> simp [hp]
    rw [paramProblemsAfter, List.append_eq_nil_iff, hhere, ih, List.nodup_cons]
    simp only [List.mem_cons, forall_eq_or_imp]
    grind

theorem paramProblems_eq_nil_iff {ps : List String} :
    paramProblems ps = [] ↔ (∀ p ∈ ps, isSymbolLiteral p = true) ∧ ps.Nodup := by
  simp [paramProblems, paramProblemsAfter_eq_nil_iff]

/-! ## The two checks -/

/-- Two different texts among the formals spell one constant. -/
def RespellsConstant (ps : List String) : Prop :=
  ∃ p ∈ ps, ∃ q ∈ ps, p ≠ q ∧ SpellOneConstant p q

section

variable {ps : List String} {as : List Atom} (hread : ps.map readAtom = as.map Except.ok)
include hread

theorem exists_atom_of_mem {p : String} (hp : p ∈ ps) : ∃ a ∈ as, readAtom p = .ok a := by
  have hmem : readAtom p ∈ as.map Except.ok := hread ▸ List.mem_map_of_mem hp
  obtain ⟨a, ha, heq⟩ := List.mem_map.1 hmem
  exact ⟨a, ha, heq.symm⟩

theorem exists_text_of_mem {a : Atom} (ha : a ∈ as) : ∃ p ∈ ps, readAtom p = .ok a := by
  have hmem : Except.ok a ∈ ps.map readAtom := hread ▸ List.mem_map_of_mem ha
  exact List.mem_map.1 hmem

theorem atoms_symbols_iff :
    (∀ a ∈ as, a.isSymbol = true) ↔ ∀ p ∈ ps, isSymbolLiteral p = true := by
  constructor
  · intro h p hp
    obtain ⟨a, ha, hpa⟩ := exists_atom_of_mem hread hp
    rw [← isSymbol_of_readAtom hpa, h a ha]
  · intro h a ha
    obtain ⟨p, hp, hpa⟩ := exists_text_of_mem hread ha
    rw [isSymbol_of_readAtom hpa, h p hp]

/-- Atoms are distinct exactly if their texts are and no two of these spell one constant. -/
theorem atoms_nodup_iff : as.Nodup ↔ ps.Nodup ∧ ¬ RespellsConstant ps := by
  have hinjective : Function.Injective (Except.ok : Atom → Except Error Atom) :=
    fun a b h => Except.ok.inj h
  rw [← List.nodup_map_iff hinjective, ← hread]
  constructor
  · intro h
    refine ⟨h.of_map, ?_⟩
    rintro ⟨p, hp, q, hq, hne, hspell⟩
    exact hne (List.inj_on_of_nodup_map h hp hq hspell.readAtom_eq)
  · rintro ⟨hnodup, hspell⟩
    refine hnodup.map_on fun p hp q hq heq => ?_
    obtain ⟨a, -, hpa⟩ := exists_atom_of_mem hread hp
    rcases (readAtom_eq_iff hpa).1 heq with rfl | hsame
    · rfl
    · by_contra hne
      exact hspell ⟨p, hp, q, hq, hne, hsame⟩

end

/-- Whether the formals of a definition are refused, for all texts that the reader takes for atoms. They
    are refused as no symbols or as repeated exactly if an editor reports a problem with the texts, or
    two different ones of these are spellings of `NIL`, or of `T`. -/
theorem formals_refused_iff (ps : List String) (as : List Atom)
    (hread : ps.map readAtom = as.map Except.ok) :
    (∃ e, Function.paramNames [] (Sexp.ofList (as.map Sexp.atom)).items = .error e ∧
        (e.kind = .parameter ∨ e.kind = .duplicate)) ↔
      paramProblems ps ≠ [] ∨ RespellsConstant ps := by
  have haccepted : (∃ names, Function.paramNames [] (as.map Sexp.atom) = .ok names) ↔
      paramProblems ps = [] ∧ ¬ RespellsConstant ps := by
    rw [Function.paramNames_eq_ok_iff, paramProblems_eq_nil_iff, atoms_symbols_iff hread,
      atoms_nodup_iff hread, and_assoc]
  have hrefused : (∃ e, Function.paramNames [] (as.map Sexp.atom) = .error e ∧
      (e.kind = .parameter ∨ e.kind = .duplicate)) ↔
      ¬ ∃ names, Function.paramNames [] (as.map Sexp.atom) = .ok names := by
    cases hnames : Function.paramNames [] (as.map Sexp.atom) with
    | ok names => simp
    | error e => simp [Function.kind_of_paramNames hnames]
  rw [Sexp.items_ofList, hrefused, haccepted, not_and_or, not_not]

/-- `x` and `+5` are refused, and an editor reports a problem: `+5` is no symbol. -/
theorem formals_refused_iff_signed :
    let ps := ["x", "+5"]
    let as : List Atom := [⟨"x", by decide⟩, ⟨"+5", by decide⟩]
    ps.map readAtom = as.map Except.ok ∧ paramProblems ps ≠ [] ∧
      ∃ e, Function.paramNames [] (Sexp.ofList (as.map Sexp.atom)).items = .error e ∧
        (e.kind = .parameter ∨ e.kind = .duplicate) := by
  intro ps as
  have hupper : Text.upper "x" = "X" ∧ Text.upper "+5" = "+5" := by decide
  have hvalid : isAtomLiteral "x" = true ∧ isAtomLiteral "+5" = true := by decide
  have hread : ps.map readAtom = as.map Except.ok := by
    simp [ps, as, readAtom, hupper, hvalid, Atom.ofText, Atom.ofText?]
  have hproblem : paramProblems ps ≠ [] := by decide
  exact ⟨hread, hproblem, (formals_refused_iff ps as hread).2 (Or.inl hproblem)⟩

/-- An editor does not report all formals that are refused: `nil` and `NIL` are different texts, and one
    atom. -/
theorem formals_refused_without_problem :
    ¬ ∀ (ps : List String) (as : List Atom), ps.map readAtom = as.map Except.ok →
      (paramProblems ps ≠ [] ↔
        ∃ e, Function.paramNames [] (Sexp.ofList (as.map Sexp.atom)).items = .error e ∧
          (e.kind = .parameter ∨ e.kind = .duplicate)) := by
  intro h
  have hupper : Text.upper "nil" = "NIL" ∧ Text.upper "NIL" = "NIL" := by decide
  have hread : ["nil", "NIL"].map readAtom = [Atom.nil, Atom.nil].map Except.ok := by
    simp [readAtom, hupper]
  have hnone : paramProblems ["nil", "NIL"] = [] := by decide
  exact (h _ _ hread).2 ⟨_, rfl, Or.inr rfl⟩ hnone

end Editor

end MiniLisp
