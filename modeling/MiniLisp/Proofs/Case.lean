import Mathlib.Data.List.Forall2
import MiniLisp.Text.Case.Upper

/-! # Sources of case mappings

Which characters a case mapping sends to a given one. The table of a mapping is finite, so the sources of
a character can be listed; a statement about all texts with a given image is then a search through the
sources of its characters. For a word that no image of several characters fits into, the texts with this
image are the word's spellings, letter by letter. -/

namespace MiniLisp.Text

/-! ## Images and the table -/

namespace CaseMapping

theorem mem_of_expansion?_eq_some {es : List (Nat × List Nat)} {n : Nat} {image : List Nat}
    (h : expansion? es n = some image) : (n, image) ∈ es := by
  induction es with
  | nil => cases h
  | cons e es ih =>
    obtain ⟨source, image'⟩ := e
    rw [expansion?] at h
    split at h
    · cases h
    · split at h
      · next heq =>
        cases heq
        cases h
        exact List.mem_cons_self
      · exact List.mem_cons_of_mem _ (ih h)

theorem exists_run_of_offset?_eq_some {rs : List CaseRun} {n : Nat} {d : Int}
    (h : offset? rs n = some d) : ∃ r ∈ rs, r.first ≤ n ∧ n ≤ r.last ∧ r.offset = d := by
  induction rs with
  | nil => cases h
  | cons r rs ih =>
    rw [offset?] at h
    split at h
    · cases h
    · next hfirst =>
      split at h
      · next hin =>
        cases h
        exact ⟨r, List.mem_cons_self, Nat.not_lt.1 hfirst, hin.1, rfl⟩
      · obtain ⟨r', hr', hat⟩ := ih h
        exact ⟨r', List.mem_cons_of_mem r hr', hat⟩

/-- The image of a character is the character itself, or comes from an entry of the table. -/
theorem image_cases (m : CaseMapping) (c : Char) :
    m.image c = [c] ∨
      (∃ e ∈ m.expansions, e.1 = c.toNat ∧ m.image c = e.2.map Char.ofNat) ∨
      ∃ r ∈ m.runs, r.first ≤ c.toNat ∧ c.toNat ≤ r.last ∧
        m.image c = [Char.ofNat (c.toNat + r.offset).toNat] := by
  rw [image]
  cases hexpansion : expansion? m.expansions c.toNat with
  | some ns => exact Or.inr (Or.inl ⟨_, mem_of_expansion?_eq_some hexpansion, rfl, rfl⟩)
  | none =>
    cases hoffset : offset? m.runs c.toNat with
    | none => exact Or.inl rfl
    | some d =>
      obtain ⟨r, hr, hfirst, hlast, rfl⟩ := exists_run_of_offset?_eq_some hoffset
      exact Or.inr (Or.inr ⟨r, hr, hfirst, hlast, rfl⟩)

/-! ## Sources -/

/-- The code points whose image has `x` in it: `x` itself, those of the listed images with `x` among
    their characters, and in each run the one at the distance of the run from `x`. -/
def sources (m : CaseMapping) (x : Nat) : List Nat :=
  x :: ((m.expansions.filter fun e => e.2.contains x).map Prod.fst ++
    m.runs.filterMap fun r =>
      let source := (x : Int) - r.offset
      if r.first ≤ source ∧ source ≤ r.last then some source.toNat else none)

theorem toNat_ofNat_of_ne_zero {n : Nat} (h : (Char.ofNat n).toNat ≠ 0) :
    (Char.ofNat n).toNat = n := by
  by_cases hvalid : n.isValidChar
  · rw [Char.ofNat, dif_pos hvalid]
    rfl
  · rw [Char.ofNat, dif_neg hvalid] at h
    exact absurd rfl h

/-- Only the sources of a character have it in their images. The null character is left out, since it
    also stands for numbers that are no code points. -/
theorem mem_sources_of_mem_image {m : CaseMapping} {c x : Char} (hx : x.toNat ≠ 0)
    (h : x ∈ m.image c) : c.toNat ∈ m.sources x.toNat := by
  rw [sources, List.mem_cons, List.mem_append]
  obtain himage | ⟨e, he, hsource, himage⟩ | ⟨r, hr, hfirst, hlast, himage⟩ := m.image_cases c
  · rw [himage, List.mem_singleton] at h
    exact Or.inl (h ▸ rfl)
  · rw [himage] at h
    obtain ⟨n, hn, rfl⟩ := List.mem_map.1 h
    rw [toNat_ofNat_of_ne_zero hx]
    refine Or.inr (Or.inl (List.mem_map.2 ⟨e, List.mem_filter.2 ⟨he, ?_⟩, hsource⟩))
    simpa using hn
  · rw [himage, List.mem_singleton] at h
    subst h
    have hcode := toNat_ofNat_of_ne_zero hx
    refine Or.inr (Or.inr (List.mem_filterMap.2 ⟨r, hr, ?_⟩))
    rw [hcode] at hx ⊢
    rw [if_pos (by omega)]
    congr 1
    omega

/-- No character is lost if no listed image is empty. -/
theorem image_ne_nil {m : CaseMapping} (hm : ∀ e ∈ m.expansions, e.2 ≠ []) (c : Char) :
    m.image c ≠ [] := by
  obtain himage | ⟨e, he, -, himage⟩ | ⟨r, -, -, -, himage⟩ := m.image_cases c
  · simp [himage]
  · simp [himage, hm e he]
  · simp [himage]

/-- Every character of a text is a source of one in the image of the text. -/
theorem exists_source_of_mem {m : CaseMapping} (hm : ∀ e ∈ m.expansions, e.2 ≠ []) {s : String}
    (himage : ∀ x ∈ (m.text s).toList, x.toNat ≠ 0) {c : Char} (hc : c ∈ s.toList) :
    ∃ x ∈ (m.text s).toList, c.toNat ∈ m.sources x.toNat := by
  obtain ⟨x, hx⟩ := List.exists_mem_of_ne_nil _ (image_ne_nil hm c)
  have hmem : x ∈ (m.text s).toList := by
    rw [text, String.toList_ofList]
    exact List.mem_flatMap.2 ⟨c, hc, hx⟩
  exact ⟨x, hmem, mem_sources_of_mem_image (himage x hmem) hx⟩

/-! ## Texts with a given image -/

/-- The characters whose image is `x` alone. -/
def letters (m : CaseMapping) (x : Char) : List Char :=
  ((m.sources x.toNat).map Char.ofNat).filter fun c => m.image c = [x]

theorem mem_letters_iff {m : CaseMapping} {c x : Char} (hx : x.toNat ≠ 0) :
    c ∈ m.letters x ↔ m.image c = [x] := by
  rw [letters, List.mem_filter, decide_eq_true_eq]
  refine ⟨fun h => h.2, fun himage => ⟨?_, himage⟩⟩
  have hmem : x ∈ m.image c := himage ▸ List.mem_singleton_self x
  exact List.mem_map.2 ⟨c.toNat, mem_sources_of_mem_image hx hmem, Char.ofNat_toNat c⟩

/-- No listed image is made of the given characters alone. -/
def ExpandsBeyond (m : CaseMapping) (xs : List Char) : Prop :=
  ∀ e ∈ m.expansions, ∃ n ∈ e.2, Char.ofNat n ∉ xs

instance (m : CaseMapping) (xs : List Char) : Decidable (m.ExpandsBeyond xs) :=
  inferInstanceAs (Decidable (∀ e ∈ m.expansions, ∃ n ∈ e.2, Char.ofNat n ∉ xs))

namespace ExpandsBeyond

variable {m : CaseMapping} {xs : List Char}

theorem tail {x : Char} (hm : m.ExpandsBeyond (x :: xs)) : m.ExpandsBeyond xs := by
  intro e he
  obtain ⟨n, hn, hout⟩ := hm e he
  exact ⟨n, hn, fun hmem => hout (List.mem_cons_of_mem x hmem)⟩

/-- An image that is made of the given characters is only one of them. -/
theorem exists_image_eq_singleton (hm : m.ExpandsBeyond xs) {c : Char} (h : m.image c ⊆ xs) :
    ∃ x, m.image c = [x] := by
  obtain himage | ⟨e, he, -, himage⟩ | ⟨r, -, -, -, himage⟩ := m.image_cases c
  · exact ⟨c, himage⟩
  · obtain ⟨n, hn, hout⟩ := hm e he
    rw [himage] at h
    exact absurd (h (List.mem_map_of_mem hn)) hout
  · exact ⟨_, himage⟩

/-- The first character of a text has the first character of its image as image, and the others have
    the others. -/
theorem flatMap_image_cons_iff {x : Char} (hm : m.ExpandsBeyond (x :: xs)) (hx : x.toNat ≠ 0)
    {c : Char} {cs : List Char} :
    (c :: cs).flatMap m.image = x :: xs ↔ c ∈ m.letters x ∧ cs.flatMap m.image = xs := by
  rw [List.flatMap_cons, mem_letters_iff hx]
  constructor
  · intro h
    -- the image of `c` is the first part of the word, so it cannot be a longer one
    have hsubset : m.image c ⊆ x :: xs := h ▸ List.subset_append_left _ _
    obtain ⟨y, hy⟩ := hm.exists_image_eq_singleton hsubset
    rw [hy] at h ⊢
    cases h
    exact ⟨rfl, rfl⟩
  · rintro ⟨himage, hrest⟩
    rw [himage, hrest]
    rfl

/-- A text has a word as image exactly if each of its characters is a letter of the word's character
    at its place. -/
theorem flatMap_image_eq_iff (hm : m.ExpandsBeyond xs) (hxs : '\x00' ∉ xs) {cs : List Char} :
    cs.flatMap m.image = xs ↔ List.Forall₂ (fun c x => c ∈ m.letters x) cs xs := by
  induction xs generalizing cs with
  | nil =>
    -- images are never empty, so only the empty text has the empty image
    have hlisted : ∀ e ∈ m.expansions, e.2 ≠ [] := by
      intro e he
      obtain ⟨n, hn, -⟩ := hm e he
      exact List.ne_nil_of_mem hn
    rw [List.forall₂_nil_right_iff, List.flatMap_eq_nil_iff]
    refine ⟨fun h => List.eq_nil_iff_forall_not_mem.2 fun c hc => ?_, fun h => by simp [h]⟩
    exact image_ne_nil hlisted c (h c hc)
  | cons x xs ih =>
    obtain ⟨hne, hrest⟩ := List.ne_and_not_mem_of_not_mem_cons hxs
    have hx : x.toNat ≠ 0 := by
      intro hzero
      rw [← Char.ofNat_toNat x, hzero] at hne
      exact hne rfl
    cases cs with
    | nil => simp
    | cons c cs => rw [hm.flatMap_image_cons_iff hx, ih hm.tail hrest, List.forall₂_cons]

end ExpandsBeyond

end CaseMapping

/-- The text is a word in any mixture of cases: each character is the one at its place in the word
    with small letters or in the word with capitals. -/
def IsCasing (small capital s : String) : Prop :=
  List.Forall₂ (fun c l => c = l.1 ∨ c = l.2) s.toList (small.toList.zip capital.toList)

namespace CaseMapping

/-- Where the letters for each character are two given ones, these can stand in its place. -/
theorem forall₂_letters_iff {m : CaseMapping} {xs cs : List Char} {ls : List (Char × Char)}
    (hletters : List.Forall₂ (fun x l => (m.letters x).Perm [l.1, l.2]) xs ls) :
    List.Forall₂ (fun c x => c ∈ m.letters x) cs xs ↔
      List.Forall₂ (fun c l => c = l.1 ∨ c = l.2) cs ls := by
  induction hletters generalizing cs with
  | nil => rw [List.forall₂_nil_right_iff, List.forall₂_nil_right_iff]
  | cons hletter _ ih =>
    rw [List.forall₂_cons_right_iff, List.forall₂_cons_right_iff]
    simp only [ih, hletter.mem_iff, List.mem_cons, List.not_mem_nil, or_false]

/-- The table sends each character of the two cases to the one of `word` at its place, and neither
    other characters nor longer images lead to `word`. -/
def SendsCasings (m : CaseMapping) (small capital word : String) : Prop :=
  m.ExpandsBeyond word.toList ∧ '\x00' ∉ word.toList ∧
    List.Forall₂ (fun x l => (m.letters x).Perm [l.1, l.2]) word.toList
      (small.toList.zip capital.toList)

instance (m : CaseMapping) (small capital word : String) :
    Decidable (m.SendsCasings small capital word) :=
  inferInstanceAs (Decidable (_ ∧ _ ∧ _))

/-- Then the casings are the texts with the image `word`. -/
theorem SendsCasings.text_eq_iff {m : CaseMapping} {small capital word : String}
    (h : m.SendsCasings small capital word) {s : String} :
    m.text s = word ↔ IsCasing small capital s := by
  obtain ⟨hm, hword, hletters⟩ := h
  rw [← String.toList_inj, text, String.toList_ofList, hm.flatMap_image_eq_iff hword,
    forall₂_letters_iff hletters, IsCasing]

end CaseMapping

theorem upperMapping_expansions_ne_nil : ∀ e ∈ upperMapping.expansions, e.2 ≠ [] := by
  decide

end MiniLisp.Text
