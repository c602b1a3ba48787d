/-! # Sets of code points

A set of code points is a list of closed ranges. The tables of character classes are written in
ascending order, so that a search ends at the first range that begins above the code point it looks
for; `contains_iff` says that nothing is missed by that. -/

namespace MiniLisp.Text

/-- A set of code points, as closed ranges. -/
abbrev Ranges := List (Nat × Nat)

namespace Ranges

/-- Whether `n` lies in one of the ranges, searched in order up to the first that begins above
    `n`. -/
def contains : Ranges → Nat → Bool
  | [], _ => false
  | (lo, hi) :: rest, n => if n < lo then false else n ≤ hi || contains rest n

/-- The ranges begin at `start` or later, and each begins after the end of the one before. -/
def AscendingFrom : Nat → Ranges → Prop
  | _, [] => True
  | start, (lo, hi) :: rest => start ≤ lo ∧ lo ≤ hi ∧ AscendingFrom (hi + 1) rest

instance decidableAscendingFrom : (start : Nat) → (rs : Ranges) → Decidable (AscendingFrom start rs)
  | _, [] => inferInstanceAs (Decidable True)
  | _, (_, hi) :: rest =>
    have := decidableAscendingFrom (hi + 1) rest
    inferInstanceAs (Decidable (_ ∧ _ ∧ _))

theorem le_of_mem {start : Nat} {rs : Ranges} (h : AscendingFrom start rs) {r : Nat × Nat}
    (hr : r ∈ rs) : start ≤ r.1 := by
  induction rs generalizing start with
  | nil => simp at hr
  | cons q rest ih =>
    obtain ⟨hlo, hhi, hrest⟩ := h
    rcases List.mem_cons.1 hr with rfl | hr
    · exact hlo
    · have := ih hrest hr
      omega

/-- In an ascending table the search finds exactly the members of the ranges. -/
theorem contains_iff {start : Nat} {rs : Ranges} (h : AscendingFrom start rs) (n : Nat) :
    rs.contains n = true ↔ ∃ r ∈ rs, r.1 ≤ n ∧ n ≤ r.2 := by
  induction rs generalizing start with
  | nil => simp [contains]
  | cons r rest ih =>
    obtain ⟨-, hhi, hrest⟩ := h
    rw [contains]
    split
    · next hlt =>
      refine ⟨nofun, ?_⟩
      rintro ⟨q, hq, hlo, -⟩
      rcases List.mem_cons.1 hq with rfl | hq
      · omega
      · have := le_of_mem hrest hq
        omega
    · next hge => simp [ih hrest, Nat.not_lt.1 hge]

end Ranges

end MiniLisp.Text
