import MiniLisp.Table

/-! # Laws of tables

A table is known by the order of its names and the value of each, so every law is stated twice:
once for `keys` and once for `get?`. The last law is that of a local scope: merging bindings into a
table, taking the new names away again and giving the shadowed names their old values back leads to
the table at the start, with its order. -/

namespace MiniLisp.Table

variable {α : Type}

/-! ## Equality -/

theorem find_eq_none_of_not_mem {name : String} {es : List (String × α)}
    (h : name ∉ es.map Prod.fst) : find name es = none := by
  cases hf : find name es with
  | none => rfl
  | some value => exact absurd (find_isSome_iff.1 (by rw [hf]; rfl)) h

theorem entries_eq_of_find {es fs : List (String × α)} (hnodup : (es.map Prod.fst).Nodup)
    (hnames : es.map Prod.fst = fs.map Prod.fst) (hfind : ∀ name, find name es = find name fs) :
    es = fs := by
  induction es generalizing fs with
  | nil => exact (List.map_eq_nil_iff.1 hnames.symm).symm
  | cons e es ih =>
    obtain ⟨key, value⟩ := e
    cases fs with
    | nil => simp at hnames
    | cons f fs =>
      obtain ⟨key', value'⟩ := f
      simp only [List.map_cons, List.cons.injEq] at hnames
      obtain ⟨rfl, hrest⟩ := hnames
      rw [List.map_cons, List.nodup_cons] at hnodup
      have hvalue : some value = some value' := by simpa [find] using hfind key
      cases hvalue
      congr 1
      refine ih hnodup.2 hrest fun name => ?_
      -- lookups agree in the rest too: `key` itself has no value there
      by_cases h : key = name
      · subst h
        rw [find_eq_none_of_not_mem hnodup.1, find_eq_none_of_not_mem (hrest ▸ hnodup.1)]
      · simpa [find, h] using hfind name

/-- Tables with the same names in the same order and the same values are equal. -/
theorem ext_get? {t u : Table α} (hkeys : t.keys = u.keys)
    (hget : ∀ name, t.get? name = u.get? name) : t = u :=
  ext (entries_eq_of_find t.nodup hkeys hget)

theorem keys_nodup (t : Table α) : t.keys.Nodup := t.nodup

theorem mem_keys_iff {t : Table α} {name : String} :
    name ∈ t.keys ↔ ∃ value, t.get? name = some value := by
  rw [← contains_iff, contains, Option.isSome_iff_exists]

theorem get?_eq_none_iff {t : Table α} {name : String} : t.get? name = none ↔ name ∉ t.keys := by
  rw [← contains_iff, contains]
  cases t.get? name <;> simp

theorem find_of_mem {es : List (String × α)} (hnodup : (es.map Prod.fst).Nodup)
    {e : String × α} (h : e ∈ es) : find e.1 es = some e.2 := by
  induction es with
  | nil => cases h
  | cons f es ih =>
    rw [List.map_cons, List.nodup_cons] at hnodup
    rcases List.mem_cons.1 h with rfl | h
    · exact if_pos rfl
    · have hne : f.1 ≠ e.1 := fun heq => hnodup.1 (heq ▸ List.mem_map_of_mem h)
      rw [find, if_neg hne]
      exact ih hnodup.2 h

theorem get?_of_mem_entries {t : Table α} {e : String × α} (h : e ∈ t.entries) :
    t.get? e.1 = some e.2 :=
  find_of_mem t.nodup h

/-! ## Giving several names their values -/

theorem get?_insertAll {es : List (String × α)} (hnodup : (es.map Prod.fst).Nodup) (t : Table α)
    (name : String) : (t.insertAll es).get? name = (find name es).or (t.get? name) := by
  induction es generalizing t with
  | nil => rfl
  | cons e es ih =>
    obtain ⟨key, value⟩ := e
    rw [List.map_cons, List.nodup_cons] at hnodup
    have hstep : (t.insertAll ((key, value) :: es)).get? name =
        ((t.insert key value).insertAll es).get? name := rfl
    rw [hstep, ih hnodup.2, get?_insert, find]
    by_cases h : key = name
    · subst h
      simp [find_eq_none_of_not_mem hnodup.1]
    · simp [h]

/-- Of several values that a name is given, the last one counts. -/
theorem get?_insertAll_eq_getLast? (t : Table α) (es : List (String × α)) (name : String) :
    (t.insertAll es).get? name =
      ((es.filter fun e => e.1 = name).getLast?.map Prod.snd).or (t.get? name) := by
  induction es generalizing t with
  | nil => rfl
  | cons e es ih =>
    have hstep : (t.insertAll (e :: es)).get? name = ((t.insert e.1 e.2).insertAll es).get? name :=
      rfl
    rw [hstep, ih, get?_insert]
    by_cases h : e.1 = name
    · rw [if_pos h, List.filter_cons_of_pos (by simpa using h), List.getLast?_cons]
      cases (es.filter fun e => e.1 = name).getLast? <;> rfl
    · rw [if_neg h, List.filter_cons_of_neg (by simpa using h)]

theorem keys_insertAll {es : List (String × α)} (hnodup : (es.map Prod.fst).Nodup) (t : Table α) :
    (t.insertAll es).keys = t.keys ++ (es.map Prod.fst).filter fun name => name ∉ t.keys := by
  induction es generalizing t with
  | nil => simp [insertAll]
  | cons e es ih =>
    obtain ⟨key, value⟩ := e
    rw [List.map_cons, List.nodup_cons] at hnodup
    have hstep : (t.insertAll ((key, value) :: es)).keys =
        ((t.insert key value).insertAll es).keys := rfl
    rw [hstep, ih hnodup.2, keys_insert]
    by_cases h : key ∈ t.keys
    · simp [h]
    · -- the names that follow are not `key`, so having `key` in the table changes nothing for them
      have hrest : (es.map Prod.fst).filter (fun name => name ∉ t.keys ++ [key]) =
          (es.map Prod.fst).filter (fun name => name ∉ t.keys) := by
        refine List.filter_congr fun name hname => ?_
        have hne : name ≠ key := fun heq => hnodup.1 (heq ▸ hname)
        simp [hne]
      simp only [h, if_false, hrest]
      simp [h]

/-- Distinct names with their values are the entries of the table that they make. -/
theorem ofList_eq {es : List (String × α)} (hnodup : (es.map Prod.fst).Nodup) :
    ofList es = ⟨es, hnodup⟩ := by
  apply ext_get?
  · rw [ofList, keys_insertAll hnodup, keys_empty]
    simp [keys]
  · intro name
    rw [ofList, get?_insertAll hnodup, get?_empty, Option.or_none]
    rfl

theorem get?_merge (t u : Table α) (name : String) :
    (t.merge u).get? name = (u.get? name).or (t.get? name) :=
  get?_insertAll u.nodup t name

theorem keys_merge (t u : Table α) :
    (t.merge u).keys = t.keys ++ u.keys.filter fun name => name ∉ t.keys :=
  keys_insertAll u.nodup t

/-! ## Part of a table -/

theorem find_filterMap_get? (t : Table α) (names : List String) (name : String) :
    find name (names.filterMap fun key => (t.get? key).map (key, ·)) =
      if name ∈ names then t.get? name else none := by
  induction names with
  | nil => rfl
  | cons key names ih =>
    cases hkey : t.get? key with
    | none =>
      by_cases h : name = key
      · subst h
        simp [hkey, ih]
      · simp [hkey, ih, h]
    | some value =>
      by_cases h : key = name
      · subst h
        simp [hkey, find]
      · simp [hkey, find, h, Ne.symm h, ih]

theorem get?_restrict (t : Table α) {names : List String} (hnodup : names.Nodup) (name : String) :
    (t.restrict names).get? name = if name ∈ names then t.get? name else none := by
  have hsub : ((names.filterMap fun key => (t.get? key).map (key, ·)).map Prod.fst).Nodup := by
    refine hnodup.sublist ?_
    clear hnodup
    induction names with
    | nil => simp
    | cons key names ih =>
      cases hkey : t.get? key with
      | none => simpa [hkey] using ih.cons key
      | some value => simpa [hkey] using ih.cons_cons key
  rw [restrict, ofList, get?_insertAll hsub, find_filterMap_get?]
  exact Option.or_none

/-! ## Taking several names away -/

/-- The table without several names. -/
def eraseAll (t : Table α) (names : List String) : Table α := names.foldl erase t

theorem entries_eraseAll (t : Table α) (names : List String) :
    (t.eraseAll names).entries = t.entries.filter fun e => e.1 ∉ names := by
  induction names generalizing t with
  | nil => exact (List.filter_eq_self.2 (by simp)).symm
  | cons name names ih =>
    have hstep : (t.eraseAll (name :: names)).entries = ((t.erase name).eraseAll names).entries :=
      rfl
    have herase : (t.erase name).entries = t.entries.filter fun e => e.1 ≠ name := rfl
    rw [hstep, ih, herase, List.filter_filter]
    refine List.filter_congr fun e _ => ?_
    simp [Bool.and_comm]

theorem keys_eraseAll (t : Table α) (names : List String) :
    (t.eraseAll names).keys = t.keys.filter fun name => name ∉ names := by
  rw [keys, entries_eraseAll, keys, List.filter_map]
  rfl

theorem get?_eraseAll (t : Table α) (names : List String) (name : String) :
    (t.eraseAll names).get? name = if name ∈ names then none else t.get? name := by
  induction names generalizing t with
  | nil => rfl
  | cons other names ih =>
    have hstep : (t.eraseAll (other :: names)).get? name =
        ((t.erase other).eraseAll names).get? name := rfl
    rw [hstep, ih, get?_erase]
    by_cases h : name ∈ names
    · simp [h]
    · by_cases ho : other = name
      · simp [ho]
      · simp [h, ho, Ne.symm ho]

/-- Names that can be taken away one after the other: distinct ones that are in the table. -/
def Removable (t : Table α) (names : List String) : Prop :=
  names.Nodup ∧ ∀ name ∈ names, name ∈ t.keys

theorem mem_keys_erase {t : Table α} {name other : String} :
    other ∈ (t.erase name).keys ↔ other ∈ t.keys ∧ other ≠ name := by
  rw [keys_erase, List.mem_filter, decide_eq_true_iff]

/-- The names after the first one are taken from the table without it. -/
theorem removable_cons {t : Table α} {name : String} {names : List String} :
    t.Removable (name :: names) ↔ name ∈ t.keys ∧ (t.erase name).Removable names := by
  simp only [Removable, List.nodup_cons, List.forall_mem_cons, mem_keys_erase]
  constructor
  · rintro ⟨⟨hfresh, hnodup⟩, hname, hnames⟩
    exact ⟨hname, hnodup, fun other hother =>
      ⟨hnames other hother, fun heq => hfresh (heq ▸ hother)⟩⟩
  · rintro ⟨hname, hnodup, hnames⟩
    exact ⟨⟨fun hmem => (hnames name hmem).2 rfl, hnodup⟩, hname,
      fun other hother => (hnames other hother).1⟩

/-! ## A local scope -/

/-- The names that a scope takes away at its end are those of its bindings that were not there
    before. -/
theorem filter_keys_eq_fresh (t b : Table α) :
    b.keys.filter (fun name => !(t.restrict b.keys).contains name && (t.merge b).contains name) =
      b.keys.filter fun name => name ∉ t.keys := by
  refine List.filter_congr fun name hname => ?_
  obtain ⟨value, hvalue⟩ := mem_keys_iff.1 hname
  rw [contains, contains, get?_merge, hvalue, get?_restrict t b.keys_nodup, if_pos hname]
  cases ht : t.get? name with
  | none => simp [get?_eq_none_iff.1 ht]
  | some old => simp [mem_keys_iff.2 ⟨old, ht⟩]

theorem keys_eraseAll_merge (t b : Table α) :
    ((t.merge b).eraseAll (b.keys.filter fun name => name ∉ t.keys)).keys = t.keys := by
  rw [keys_eraseAll, keys_merge, List.filter_append, List.filter_filter]
  have hold : t.keys.filter (fun name => name ∉ b.keys.filter fun name => name ∉ t.keys) =
      t.keys := by
    rw [List.filter_eq_self]
    intro name hname
    simp [hname]
  have hnew : b.keys.filter (fun name => decide (name ∉ b.keys.filter fun name => name ∉ t.keys) &&
      decide (name ∉ t.keys)) = [] := by
    rw [List.filter_eq_nil_iff]
    intro name hname
    simp [hname]
  rw [hold, hnew, List.append_nil]

theorem keys_merge_restrict (t u : Table α) {names : List String} (hnodup : names.Nodup)
    (hkeys : u.keys = t.keys) : (u.merge (t.restrict names)).keys = t.keys := by
  have hnone : (t.restrict names).keys.filter (fun name => name ∉ u.keys) = [] := by
    rw [List.filter_eq_nil_iff]
    intro name hname
    obtain ⟨value, hvalue⟩ := mem_keys_iff.1 hname
    rw [get?_restrict t hnodup] at hvalue
    split at hvalue
    · simpa [hkeys] using mem_keys_iff.2 ⟨value, hvalue⟩
    · cases hvalue
  rw [keys_merge, hnone, List.append_nil, hkeys]

/-- A scope that takes away the names it added, and gives the names it shadowed their old values
    back, leaves the table as it found it. -/
theorem eraseAll_merge_restrict (t b : Table α) :
    ((t.merge b).eraseAll (b.keys.filter fun name => name ∉ t.keys)).merge (t.restrict b.keys) =
      t := by
  apply ext_get?
  · exact keys_merge_restrict t _ b.keys_nodup (keys_eraseAll_merge t b)
  · intro name
    rw [get?_merge, get?_restrict t b.keys_nodup, get?_eraseAll, get?_merge]
    by_cases hb : name ∈ b.keys
    · cases ht : t.get? name with
      | none => simp [hb, get?_eq_none_iff.1 ht]
      | some value => simp [hb]
    · simp [hb, get?_eq_none_iff.2 hb]

end MiniLisp.Table
