import Mathlib.Data.List.TakeWhile
import MiniLisp.Text.Line

/-! # Lines before a place

A place is recorded by the newlines before it, so it stands in the line of its own number if a text is
cut at its newlines. But lines end at other characters too. The lines that end before a place do not
depend on what follows; and if all of them end in newlines, the place stands in the line of its own
number, after the last newline. -/

namespace MiniLisp.Text

/-- The number of lines that end in a text; a carriage return and the newline after it end one. -/
def lineEnds : List Char → Nat
  | [] => 0
  | '\r' :: '\n' :: rest => lineEnds rest + 1
  | c :: rest => lineEnds rest + if isLineEnd c then 1 else 0

/-- The first line of a text, with its line end. -/
def firstLine (cs : List Char) : List Char := (splitLines cs)[0]?.getD []

/-- The characters after the last newline. -/
def afterNewline (cs : List Char) : List Char := (cs.reverse.takeWhile (· ≠ '\n')).reverse

/-! ## Lines -/

theorem isLineEnd_newline : isLineEnd '\n' = true := rfl

theorem splitLines_return_newline (cs : List Char) :
    splitLines ('\r' :: '\n' :: cs) = ['\r', '\n'] :: splitLines cs := rfl

theorem splitLines_cons {c : Char} {cs : List Char} (h : c = '\r' → cs.head? ≠ some '\n') :
    splitLines (c :: cs) =
      if isLineEnd c then [c] :: splitLines cs
      else (c :: firstLine cs) :: (splitLines cs).tail := by
  rw [splitLines.eq_def]
  split
  · next heq => cases heq
  · next heq =>
    cases heq
    exact absurd rfl (h rfl)
  · next heq =>
    cases heq
    split
    · rfl
    · rw [firstLine]
      cases splitLines cs <;> rfl

theorem splitLines_cons_of_not_isLineEnd {c : Char} (h : isLineEnd c = false) (cs : List Char) :
    splitLines (c :: cs) = (c :: firstLine cs) :: (splitLines cs).tail := by
  have hreturn : c ≠ '\r' := by
    rintro rfl
    cases h
  rw [splitLines_cons fun heq => absurd heq hreturn, h]
  rfl

theorem splitLines_newline (cs : List Char) : splitLines ('\n' :: cs) = ['\n'] :: splitLines cs :=
  splitLines_cons nofun

theorem getElem?_zero_splitLines {cs : List Char} (h : cs ≠ []) :
    (splitLines cs)[0]? = some (firstLine cs) := by
  rw [firstLine]
  fun_cases splitLines cs with
  | case1 => exact absurd rfl h
  | case2 => rfl
  | case3 => rfl
  | case4 => rfl
  | case5 => rfl

theorem head?_firstLine (cs : List Char) : (firstLine cs).head? = cs.head? := by
  rw [firstLine]
  fun_cases splitLines cs <;> rfl

theorem firstLine_append {cs : List Char} (h : ∀ c ∈ cs, isLineEnd c = false) (rest : List Char) :
    firstLine (cs ++ rest) = cs ++ firstLine rest := by
  induction cs with
  | nil => rfl
  | cons c cs ih =>
    rw [List.cons_append, firstLine, splitLines_cons_of_not_isLineEnd (h c List.mem_cons_self)]
    exact congrArg (c :: ·) (ih fun d hd => h d (List.mem_cons_of_mem c hd))

/-! ## Newlines -/

theorem afterNewline_append (cs rest : List Char) :
    afterNewline (cs ++ '\n' :: rest) = afterNewline rest := by
  have hreverse : (cs ++ '\n' :: rest).reverse = rest.reverse ++ '\n' :: cs.reverse := by simp
  rw [afterNewline, afterNewline, hreverse, List.takeWhile_append]
  split
  · next hall =>
    have hsame := (List.takeWhile_sublist (· ≠ '\n')).eq_of_length hall
    rw [hsame]
    simp
  · rfl

theorem afterNewline_of_not_mem {cs : List Char} (h : '\n' ∉ cs) : afterNewline cs = cs := by
  rw [afterNewline, List.takeWhile_eq_self_iff.2, List.reverse_reverse]
  intro c hc
  rw [decide_eq_true_iff]
  rintro rfl
  exact h (List.mem_reverse.1 hc)

theorem afterNewline_cons_of_mem (c : Char) {cs : List Char} (h : '\n' ∈ cs) :
    afterNewline (c :: cs) = afterNewline cs := by
  obtain ⟨before, rest, rfl⟩ := List.append_of_mem h
  rw [← List.cons_append, afterNewline_append, afterNewline_append]

theorem newline_not_mem_afterNewline (cs : List Char) : '\n' ∉ afterNewline cs := by
  intro h
  have hne := List.mem_takeWhile_imp (List.mem_reverse.1 h)
  simp at hne

/-- A text that has a newline is cut at the last one. -/
theorem exists_eq_append_afterNewline {cs : List Char} (h : '\n' ∈ cs) :
    ∃ before, cs = before ++ '\n' :: afterNewline cs := by
  induction cs with
  | nil => cases h
  | cons c cs ih =>
    by_cases hmem : '\n' ∈ cs
    · obtain ⟨before, heq⟩ := ih hmem
      refine ⟨c :: before, ?_⟩
      rw [afterNewline_cons_of_mem c hmem, List.cons_append, ← heq]
    · obtain rfl : c = '\n' := ((List.mem_cons.1 h).resolve_right hmem).symm
      have hafter : afterNewline ('\n' :: cs) = afterNewline cs := afterNewline_append [] cs
      exact ⟨[], by rw [hafter, afterNewline_of_not_mem hmem, List.nil_append]⟩

theorem position_append (before rest : List Char) :
    position (before ++ rest) before.length =
      ⟨before.count '\n', (afterNewline before).length⟩ := by
  have hle := (List.takeWhile_sublist (l := before.reverse) (· ≠ '\n')).length_le
  rw [List.length_reverse] at hle
  simp only [position, lineStart, List.take_left, afterNewline, List.length_reverse]
  congr 1
  omega

/-! ## Lines between newlines -/

theorem length_splitOn_newline (cs : List Char) :
    (cs.splitOn '\n').length = cs.count '\n' + 1 := by
  induction cs with
  | nil => rfl
  | cons c cs ih =>
    by_cases hc : c = '\n' <;> simp [List.splitOn_cons_eq_if_modifyHead, hc, ih]

/-- Characters without a newline among them stand at the beginning of the first line. -/
theorem exists_splitOn_append {cs : List Char} (h : '\n' ∉ cs) (rest : List Char) :
    ∃ more lines, (cs ++ rest).splitOn '\n' = (cs ++ more) :: lines := by
  by_cases hrest : '\n' ∈ rest
  · obtain ⟨more, others, rfl, hmore⟩ := List.eq_append_cons_of_mem hrest
    refine ⟨more, others.splitOn '\n', ?_⟩
    rw [← List.append_assoc]
    exact List.splitOn_append_cons_self_of_not_mem (by simp [h, hmore]) others
  · exact ⟨rest, [], List.splitOn_eq_singleton (by simp [h, hrest])⟩

/-- The lines that end in a text stay the same whatever follows it, and they are as many as its
    newlines. -/
theorem exists_lines (before : List Char) :
    ∃ lines, lines.length = before.count '\n' ∧ ∀ rest,
      (before ++ rest).splitOn '\n' = lines ++ (afterNewline before ++ rest).splitOn '\n' := by
  by_cases h : '\n' ∈ before
  · obtain ⟨earlier, heq⟩ := exists_eq_append_afterNewline h
    refine ⟨earlier.splitOn '\n', ?_, fun rest => ?_⟩
    · rw [length_splitOn_newline, heq, List.count_append, List.count_cons_self,
        List.count_eq_zero.2 (newline_not_mem_afterNewline before)]
    · conv => lhs; rw [heq, List.append_assoc, List.cons_append]
      exact List.splitOn_append_cons_self earlier _
  · refine ⟨[], (List.count_eq_zero.2 h).symm, fun rest => ?_⟩
    rw [afterNewline_of_not_mem h, List.nil_append]

/-! ## The line of a place -/

/-- A newline ends a line, so a place is recorded with at most as many lines as end before it. -/
theorem count_newline_le_lineEnds (cs : List Char) : cs.count '\n' ≤ lineEnds cs := by
  fun_induction lineEnds cs with
  | case1 => exact Nat.le_refl 0
  | case2 rest ih => simpa using ih
  | case3 c rest hne ih =>
    by_cases hc : c = '\n'
    · subst hc
      rw [List.count_cons_self, if_pos isLineEnd_newline]
      exact Nat.succ_le_succ ih
    · rw [List.count_cons_of_ne hc]
      omega

/-- A line that ends stays the same whatever follows. -/
theorem getElem?_splitLines_append {before rest : List Char} (hrest : rest.head? ≠ some '\n') {n : Nat}
    (h : n < lineEnds before) : (splitLines (before ++ rest))[n]? = (splitLines before)[n]? := by
  fun_induction lineEnds before generalizing n with
  | case1 => cases h
  | case2 more ih =>
    rw [List.cons_append, List.cons_append, splitLines_return_newline, splitLines_return_newline]
    cases n with
    | zero => rfl
    | succ n => exact ih (Nat.lt_of_succ_lt_succ h)
  | case3 c more hne ih =>
    have hreturn : c = '\r' → more.head? ≠ some '\n' := by
      rintro rfl hhead
      obtain ⟨others, rfl⟩ := List.head?_eq_some_iff.1 hhead
      exact hne others rfl rfl
    have hreturn' : c = '\r' → (more ++ rest).head? ≠ some '\n' := by
      intro hc
      cases more with
      | nil => exact hrest
      | cons d more => exact hreturn hc
    rw [List.cons_append, splitLines_cons hreturn, splitLines_cons hreturn']
    split at h
    · next hend =>
      rw [if_pos hend, if_pos hend]
      cases n with
      | zero => rfl
      | succ n => exact ih (Nat.lt_of_succ_lt_succ h)
    · next hend =>
      rw [if_neg hend, if_neg hend]
      cases n with
      | zero =>
        have hfirst := ih h
        simp [firstLine, hfirst]
      | succ n => simpa using ih h

/-- If every line that ends does so in a newline, what follows stands in the line that the number of
    newlines says, after the characters since the last one. -/
theorem getElem?_splitLines_of_newlines {before rest : List Char} (hrest : rest ≠ [])
    (h : lineEnds before = before.count '\n') :
    (splitLines (before ++ rest))[before.count '\n']? =
      some (afterNewline before ++ firstLine rest) := by
  fun_induction lineEnds before with
  | case1 => exact getElem?_zero_splitLines hrest
  | case2 more ih =>
    have hmore : lineEnds more = more.count '\n' := by simpa using h
    have hafter : afterNewline ('\r' :: '\n' :: more) = afterNewline more :=
      afterNewline_append ['\r'] more
    rw [hafter, List.cons_append, List.cons_append, splitLines_return_newline, ← ih hmore]
    simp
  | case3 c more hne ih =>
    have hle := count_newline_le_lineEnds more
    by_cases hc : c = '\n'
    · subst hc
      rw [List.count_cons_self, if_pos isLineEnd_newline] at h
      have hafter : afterNewline ('\n' :: more) = afterNewline more := afterNewline_append [] more
      rw [hafter, List.cons_append, splitLines_newline, List.count_cons_self,
        List.getElem?_cons_succ]
      exact ih (Nat.succ.inj h)
    · rw [List.count_cons_of_ne hc] at h ⊢
      -- A line end of another kind would be one line more than there are newlines.
      have hend : isLineEnd c = false := by
        rw [Bool.eq_false_iff]
        intro hend
        rw [if_pos hend] at h
        omega
      rw [hend] at h
      rw [List.cons_append, splitLines_cons_of_not_isLineEnd hend]
      by_cases hmem : '\n' ∈ more
      · -- The character stands in the first line, and the place in a later one.
        obtain ⟨n, hn⟩ := Nat.exists_eq_succ_of_ne_zero (List.count_pos_iff.2 hmem).ne'
        rw [afterNewline_cons_of_mem c hmem, ← ih h, hn]
        simp
      · have hcount : more.count '\n' = 0 := List.count_eq_zero.2 hmem
        have hfirst := ih h
        rw [hcount, afterNewline_of_not_mem hmem] at hfirst
        have hall : '\n' ∉ c :: more := by
          simpa [hmem] using Ne.symm hc
        rw [hcount, afterNewline_of_not_mem hall]
        simp [firstLine, hfirst]

end MiniLisp.Text
