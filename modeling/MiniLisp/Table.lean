/-! # Tables

A table maps names to values and remembers the order in which the names came: a new name goes to the
end, and a name that is there keeps its place when its value changes. -/

namespace MiniLisp

/-- A finite map from names, in the order of their arrival. -/
structure Table (α : Type) where
  entries : List (String × α)
  /-- No name occurs twice. -/
  nodup : (entries.map Prod.fst).Nodup

namespace Table

variable {α : Type}

@[ext] theorem ext {t u : Table α} (h : t.entries = u.entries) : t = u := by
  cases t; cases u; cases h; rfl

/-! ## Lists of entries -/

/-- The value of the first entry with a given name. -/
def find (name : String) : List (String × α) → Option α
  | [] => none
  | (key, value) :: es => if key = name then some value else find name es

/-- The entries with a value put in its place, or at the end if the name is new. -/
def put (name : String) (value : α) : List (String × α) → List (String × α)
  | [] => [(name, value)]
  | (key, old) :: es => if key = name then (name, value) :: es else (key, old) :: put name value es

/-- The entries without those of a name. -/
def remove (name : String) (es : List (String × α)) : List (String × α) :=
  es.filter fun e => e.1 ≠ name

theorem map_fst_put (name : String) (value : α) (es : List (String × α)) :
    (put name value es).map Prod.fst =
      if name ∈ es.map Prod.fst then es.map Prod.fst else es.map Prod.fst ++ [name] := by
  induction es with
  | nil => rfl
  | cons e es ih =>
    obtain ⟨key, old⟩ := e
    by_cases h : key = name
    · simp [put, h]
    · simp only [put, h, if_false, List.map_cons, ih, List.mem_cons, Ne.symm h, false_or]
      split <;> rfl

theorem map_fst_remove (name : String) (es : List (String × α)) :
    (remove name es).map Prod.fst = (es.map Prod.fst).filter fun key => key ≠ name := by
  rw [remove, List.filter_map]
  rfl

theorem find_put (name other : String) (value : α) (es : List (String × α)) :
    find other (put name value es) = if name = other then some value else find other es := by
  induction es with
  | nil => rfl
  | cons e es ih =>
    obtain ⟨key, old⟩ := e
    by_cases h : key = name
    · subst h
      by_cases ho : key = other <;> simp [put, find, ho]
    · by_cases ho : key = other
      · subst ho
        simp [put, find, h, Ne.symm h]
      · simp [put, find, h, ho, ih]

theorem find_remove (name other : String) (es : List (String × α)) :
    find other (remove name es) = if name = other then none else find other es := by
  induction es with
  | nil => simp [remove, find]
  | cons e es ih =>
    obtain ⟨key, old⟩ := e
    unfold remove at ih ⊢
    by_cases h : key = name
    · subst h
      by_cases ho : key = other <;> simp_all [find]
    · by_cases ho : key = other
      · subst ho
        simp [find, h, Ne.symm h]
      · simpa [find, h, ho] using ih

theorem find_isSome_iff {name : String} {es : List (String × α)} :
    (find name es).isSome = true ↔ name ∈ es.map Prod.fst := by
  induction es with
  | nil => simp [find]
  | cons e es ih =>
    obtain ⟨key, old⟩ := e
    by_cases h : key = name
    · simp [find, h]
    · simp [find, h, Ne.symm h, ih]

/-! ## Tables -/

/-- The table without entries. -/
def empty : Table α := ⟨[], List.nodup_nil⟩

instance : EmptyCollection (Table α) := ⟨empty⟩

instance : Inhabited (Table α) := ⟨empty⟩

/-- The names, in order. -/
def keys (t : Table α) : List String := t.entries.map Prod.fst

/-- The value of a name. -/
def get? (t : Table α) (name : String) : Option α := find name t.entries

/-- Whether a name has a value. -/
def contains (t : Table α) (name : String) : Bool := (t.get? name).isSome

/-- Gives a name a value. -/
def insert (t : Table α) (name : String) (value : α) : Table α where
  entries := put name value t.entries
  nodup := by
    rw [map_fst_put]
    split
    · exact t.nodup
    · next h =>
      refine List.nodup_append.2 ⟨t.nodup, by simp, ?_⟩
      rintro a ha b hb rfl
      exact h (List.mem_singleton.1 hb ▸ ha)

/-- Takes a name away. -/
def erase (t : Table α) (name : String) : Table α where
  entries := remove name t.entries
  nodup := t.nodup.sublist (List.filter_sublist.map _)

/-- Gives several names their values, one after the other. -/
def insertAll (t : Table α) (es : List (String × α)) : Table α :=
  es.foldl (fun t e => t.insert e.1 e.2) t

/-- The table that arises by giving several names their values. -/
def ofList (es : List (String × α)) : Table α := empty.insertAll es

/-- Gives the names of the second table their values from there. -/
def merge (t u : Table α) : Table α := t.insertAll u.entries

/-- The entries of `t` whose names are among `names`, in the order of `names`. -/
def restrict (t : Table α) (names : List String) : Table α :=
  ofList (names.filterMap fun name => (t.get? name).map (name, ·))

@[simp] theorem keys_empty : (empty : Table α).keys = [] := rfl

@[simp] theorem get?_empty (name : String) : (empty : Table α).get? name = none := rfl

theorem contains_iff {t : Table α} {name : String} : t.contains name = true ↔ name ∈ t.keys :=
  find_isSome_iff

theorem keys_insert (t : Table α) (name : String) (value : α) :
    (t.insert name value).keys = if name ∈ t.keys then t.keys else t.keys ++ [name] :=
  map_fst_put name value t.entries

theorem get?_insert (t : Table α) (name other : String) (value : α) :
    (t.insert name value).get? other = if name = other then some value else t.get? other :=
  find_put name other value t.entries

theorem keys_erase (t : Table α) (name : String) :
    (t.erase name).keys = t.keys.filter fun key => key ≠ name :=
  map_fst_remove name t.entries

theorem get?_erase (t : Table α) (name other : String) :
    (t.erase name).get? other = if name = other then none else t.get? other :=
  find_remove name other t.entries

end Table

end MiniLisp
