import MiniLisp.Environment
import MiniLisp.Proofs.Sexp

/-! # Making functions

What a function is made of, which formals are accepted and which errors the others lead to. -/

namespace MiniLisp

namespace Function

variable {origin : Origin} {formals body : Sexp} {fn : Function} {e : Error}

/-! ## Formals -/

/-- The first of accepted formals is a symbol that was not seen before, and the others are accepted
    after it. -/
theorem paramNames_cons_eq_ok {seen names : List String} {x : Sexp} {xs : List Sexp}
    (h : paramNames seen (x :: xs) = .ok names) :
    ∃ name rest, x.symbol? = some name ∧ name ∉ seen ∧
      paramNames (name :: seen) xs = .ok rest ∧ names = name :: rest := by
  rw [paramNames] at h
  cases hname : x.symbol? with
  | none => simp only [hname] at h; cases h
  | some name =>
    simp only [hname] at h
    split at h
    · cases h
    · next hfresh =>
      cases hrest : paramNames (name :: seen) xs with
      | error e => rw [hrest] at h; cases h
      | ok rest =>
        rw [hrest] at h
        cases h
        exact ⟨name, rest, rfl, by simpa using hfresh, hrest, rfl⟩

/-- Accepted formals are symbols, and the names are theirs in order. -/
theorem symbols_of_paramNames {seen names : List String} {xs : List Sexp}
    (h : paramNames seen xs = .ok names) : xs.map Sexp.symbol? = names.map some := by
  induction xs generalizing seen names with
  | nil => cases h; rfl
  | cons x xs ih =>
    obtain ⟨name, rest, hname, -, hrest, rfl⟩ := paramNames_cons_eq_ok h
    rw [List.map_cons, List.map_cons, hname, ih hrest]

/-- Accepted names are distinct, and none of them was seen before. -/
theorem nodup_of_paramNames {seen names : List String} {xs : List Sexp}
    (h : paramNames seen xs = .ok names) : names.Nodup ∧ ∀ name ∈ names, name ∉ seen := by
  induction xs generalizing seen names with
  | nil =>
    cases h
    exact ⟨List.nodup_nil, nofun⟩
  | cons x xs ih =>
    obtain ⟨name, rest, -, hfresh, hrest, rfl⟩ := paramNames_cons_eq_ok h
    obtain ⟨hnodup, hnew⟩ := ih hrest
    refine ⟨List.nodup_cons.2 ⟨fun hmem => hnew name hmem List.mem_cons_self, hnodup⟩, ?_⟩
    intro other hother
    rcases List.mem_cons.1 hother with rfl | hother
    · exact hfresh
    · exact fun hmem => hnew other hother (List.mem_cons_of_mem name hmem)

/-- Distinct symbols are accepted. -/
theorem paramNames_of_nodup {seen : List String} {xs : List Atom}
    (hsymbol : ∀ x ∈ xs, x.isSymbol = true) (hnodup : (xs.map Atom.lit).Nodup)
    (hseen : ∀ x ∈ xs, x.lit ∉ seen) :
    paramNames seen (xs.map Sexp.atom) = .ok (xs.map Atom.lit) := by
  induction xs generalizing seen with
  | nil => rfl
  | cons x xs ih =>
    rw [List.map_cons, List.nodup_cons] at hnodup
    have hname : (Sexp.atom x).symbol? = some x.lit := by
      rw [Sexp.symbol?, if_pos (hsymbol x List.mem_cons_self)]
    have hfresh : seen.contains x.lit = false := by
      simpa using hseen x List.mem_cons_self
    -- the names that follow are neither seen before nor this one
    have hrest : ∀ y ∈ xs, y.lit ∉ x.lit :: seen := by
      intro y hy hmem
      rcases List.mem_cons.1 hmem with heq | hmem
      · exact hnodup.1 (heq ▸ List.mem_map_of_mem hy)
      · exact hseen y (List.mem_cons_of_mem x hy) hmem
    have htail := ih (fun y hy => hsymbol y (List.mem_cons_of_mem x hy)) hnodup.2 hrest
    rw [List.map_cons, paramNames, hname]
    simp only [hfresh, htail]
    rfl

theorem kind_of_paramNames {seen : List String} {xs : List Sexp}
    (h : paramNames seen xs = .error e) : e.kind = .parameter ∨ e.kind = .duplicate := by
  induction xs generalizing seen with
  | nil => cases h
  | cons x xs ih =>
    rw [paramNames] at h
    cases hname : x.symbol? with
    | none =>
      simp only [hname] at h
      cases h
      exact Or.inl rfl
    | some name =>
      simp only [hname] at h
      split at h
      · cases h
        exact Or.inr rfl
      · cases hrest : paramNames (name :: seen) xs with
        | error e' =>
          rw [hrest] at h
          cases h
          exact ih hrest
        | ok rest => rw [hrest] at h; cases h

/-! ## Functions -/

/-- Formals and bodies that are no lists are refused, and then the names decide. -/
theorem make_cases (origin : Origin) (formals body : Sexp) :
    (∃ e, make origin formals body = .error e ∧ e.kind = .definition) ∨
      make origin formals body =
        (fun params => ⟨origin, params, formals, body⟩) <$> paramNames [] formals.items := by
  rw [make]
  split
  · exact Or.inl ⟨_, rfl, rfl⟩
  · split
    · exact Or.inl ⟨_, rfl, rfl⟩
    · exact Or.inr rfl

/-- A function is made of what was given, and its names are those of its formals. -/
theorem make_eq_ok (h : make origin formals body = .ok fn) :
    fn.origin = origin ∧ fn.formals = formals ∧ fn.body = body ∧
      formals.items.map Sexp.symbol? = fn.params.map some := by
  obtain ⟨e, hmake, -⟩ | hmake := make_cases origin formals body
  · rw [hmake] at h
    cases h
  · rw [hmake] at h
    cases hnames : paramNames [] formals.items with
    | error e => rw [hnames] at h; cases h
    | ok names =>
      rw [hnames] at h
      cases h
      exact ⟨rfl, rfl, rfl, symbols_of_paramNames hnames⟩

theorem make_of_nodup (origin : Origin) {xs : List Atom} (hsymbol : ∀ x ∈ xs, x.isSymbol = true)
    (hnodup : (xs.map Atom.lit).Nodup) (hbody : body.isListOrNil = true) :
    make origin (.ofList (xs.map .atom)) body =
      .ok ⟨origin, xs.map Atom.lit, .ofList (xs.map .atom), body⟩ := by
  have hnames := paramNames_of_nodup hsymbol hnodup fun x _ => List.not_mem_nil
  rw [make, Sexp.isListOrNil_ofList, hbody, Sexp.items_ofList, hnames]
  rfl

theorem kind_of_make (h : make origin formals body = .error e) :
    e.kind = .definition ∨ e.kind = .parameter ∨ e.kind = .duplicate := by
  obtain ⟨e', hmake, hkind⟩ | hmake := make_cases origin formals body
  · rw [hmake] at h
    cases h
    exact Or.inl hkind
  · rw [hmake] at h
    cases hnames : paramNames [] formals.items with
    | error e' =>
      rw [hnames] at h
      cases h
      exact Or.inr (kind_of_paramNames hnames)
    | ok names => rw [hnames] at h; cases h

end Function

namespace Environment

theorem namedFunction_eq_ok {name : String} {formals body : Sexp} {fn : Function}
    (h : namedFunction name formals body = .ok fn) :
    isLambdaName name = false ∧ Function.make (.named name) formals body = .ok fn := by
  rw [namedFunction] at h
  split at h
  · cases h
  · next hname => exact ⟨by simpa using hname, h⟩

theorem kind_of_namedFunction {name : String} {formals body : Sexp} {e : Error}
    (h : namedFunction name formals body = .error e) :
    e.kind = .definition ∨ e.kind = .parameter ∨ e.kind = .duplicate := by
  rw [namedFunction] at h
  split at h
  · cases h
    exact Or.inl rfl
  · exact Function.kind_of_make h

end Environment

end MiniLisp
