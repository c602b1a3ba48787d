import Mathlib.Data.List.Induction
import MiniLisp.Editor.Word
import MiniLisp.Proofs.Editor.Index
import MiniLisp.Proofs.Line

/-! # The word at a place

In each line that a text has, the word at a column is the widest stretch around it of characters that may
be in a word, and only a column past the end of the line is refused. At the recorded place of a
definition, if all lines before its name end in newlines, the word is the name, extended on both sides by
characters that a word may have but a name may not. Otherwise the recorded line is one that ends before
the name. -/

namespace MiniLisp

/-! ## Names -/

theorem Text.isBlank_of_isLineEnd {c : Char} (h : isLineEnd c = true) : isBlank c = true := by
  simp only [isLineEnd, Bool.or_eq_true, decide_eq_true_eq] at h
  rcases h with ((((((((rfl | rfl) | rfl) | rfl) | rfl) | rfl) | rfl) | rfl) | rfl) | rfl <;>
    decide

theorem Token.Written.isAtomChar {text : String} (h : Written ⟨.atom, text⟩) {c : Char}
    (hc : c ∈ text.toList) : Token.isAtomChar c = true := by
  cases h with
  | atom nonempty chars =>
    rw [String.toList_ofList] at hc
    exact chars c hc

theorem Token.not_isLineEnd_of_isAtomChar {c : Char} (h : isAtomChar c = true) :
    Text.isLineEnd c = false := by
  rw [Bool.eq_false_iff]
  intro hend
  simp [isAtomChar, Text.isBlank_of_isLineEnd hend] at h

namespace Editor

theorem isInWord_of_isAtomChar {c : Char} (h : Token.isAtomChar c = true) : isInWord c = true := by
  by_contra hnot
  simp only [isInWord, Bool.not_eq_true', Bool.not_eq_false, Bool.or_eq_true,
    decide_eq_true_eq] at hnot
  rcases hnot with (((((rfl | rfl) | rfl) | rfl) | rfl) | rfl) | rfl <;>
    exact absurd h (by decide)

/-! ## The word around a piece -/

/-- The end of a word that ends with the text. -/
def wordBefore (left : List Char) : List Char := (left.reverse.takeWhile isInWord).reverse

/-- The beginning of a word that begins with the text. -/
def wordAfter (right : List Char) : List Char := (Text.firstLine right).takeWhile isInWord

theorem wordBefore_eq_nil_iff {left : List Char} :
    wordBefore left = [] ↔ ∀ c ∈ left.getLast?, isInWord c = false := by
  rw [wordBefore, List.reverse_eq_nil_iff, ← List.head?_reverse]
  cases left.reverse with
  | nil => simp
  | cons c cs => cases hc : isInWord c <;> simp [hc]

theorem wordAfter_eq_nil_iff {right : List Char} :
    wordAfter right = [] ↔ ∀ c ∈ right.head?, isInWord c = false := by
  rw [wordAfter, ← Text.head?_firstLine]
  cases Text.firstLine right with
  | nil => simp
  | cons c cs => cases hc : isInWord c <;> simp [hc]

theorem wordBefore_afterNewline (left : List Char) :
    wordBefore (Text.afterNewline left) = wordBefore left := by
  rw [wordBefore, wordBefore, Text.afterNewline, List.reverse_reverse, List.takeWhile_takeWhile]
  congr 2
  funext c
  by_cases hc : c = '\n' <;> simp [hc, isInWord]

theorem wordAfter_append {piece : List Char} (h : ∀ c ∈ piece, Token.isAtomChar c = true)
    (right : List Char) : wordAfter (piece ++ right) = piece ++ wordAfter right := by
  have hends : ∀ c ∈ piece, Text.isLineEnd c = false :=
    fun c hc => Token.not_isLineEnd_of_isAtomChar (h c hc)
  have hword : ∀ c ∈ piece, isInWord c = true := fun c hc => isInWord_of_isAtomChar (h c hc)
  rw [wordAfter, Text.firstLine_append hends, List.takeWhile_append_of_pos hword]
  rfl

/-- Around the place where a text is cut in two stands a word, with characters that are in no word
    around it. -/
theorem exists_cut (left right : List Char) :
    ∃ far, left ++ right = far ++ ((wordBefore left ++ right.takeWhile isInWord) ++
        right.dropWhile isInWord) ∧
      left.length = far.length + (wordBefore left).length ∧
      ∀ c ∈ far.getLast?, isInWord c = false := by
  have hleft : (left.reverse.dropWhile isInWord).reverse ++ wordBefore left = left := by
    rw [wordBefore, ← List.reverse_append, List.takeWhile_append_dropWhile, List.reverse_reverse]
  refine ⟨(left.reverse.dropWhile isInWord).reverse, ?_, ?_, ?_⟩
  · rw [List.append_assoc, List.takeWhile_append_dropWhile, ← List.append_assoc, hleft]
  · rw [← List.length_append, hleft]
  · intro c hc
    rw [List.getLast?_reverse] at hc
    have hnot := List.head?_dropWhile_not isInWord left.reverse
    rwa [Option.mem_def.1 hc] at hnot

/-- The word around a column of a line. -/
def wordAround (line : List Char) (column : Nat) : List Char :=
  wordBefore (line.take column) ++ (line.drop column).takeWhile isInWord

theorem wordAround_append (left right : List Char) :
    wordAround (left ++ right) left.length = wordBefore left ++ right.takeWhile isInWord := by
  rw [wordAround, List.take_left, List.drop_left]

/-! ## The scan of a line -/

@[simp] theorem item?_natCast {α : Type} (xs : List α) (i : Nat) : item? xs i = xs[i]? := by
  have hplace : fromStart xs.length i = i := if_neg (by omega)
  rw [item?, hplace, if_neg (by omega), Int.toNat_natCast]

@[simp] theorem slice_natCast {α : Type} (xs : List α) (start stop : Nat) :
    slice xs start stop = xs.extract start stop := by
  have hplace : ∀ i : Nat, (fromStart xs.length i).toNat = i := by
    intro i
    rw [fromStart, if_neg (by omega), Int.toNat_natCast]
  rw [slice, hplace, hplace]

theorem charAt_append_cons (left : List Char) (c : Char) (right : List Char) :
    charAt (left ++ c :: right) left.length = .ok c := by
  simp [charAt]

theorem charAt_of_length_le {line : List Char} {column : Nat} (h : line.length ≤ column) :
    charAt line column = .error .column := by
  simp [charAt, h]

theorem wordBefore_concat (left : List Char) (c : Char) :
    wordBefore (left ++ [c]) = if isInWord c then wordBefore left ++ [c] else [] := by
  cases hc : isInWord c <;> simp [wordBefore, hc]

/-- The scan to the left stops in front of the end of a word that it starts after. -/
theorem wordStart_append (left right : List Char) :
    wordStart (left ++ right) left.length =
      .ok ((left.length - (wordBefore left).length : Nat) : Int) := by
  induction left using List.reverseRecOn generalizing right with
  | nil => rw [wordStart]; rfl
  | append_singleton left c ih =>
    have hcolumn : (((left ++ [c]).length : Nat) : Int) - 1 = left.length := by simp
    have hline : left ++ [c] ++ right = left ++ c :: right := by simp
    rw [wordStart, if_pos (by simp), hcolumn, hline, charAt_append_cons, wordBefore_concat]
    cases hc : isInWord c with
    | false => simp [hc]
    | true => simp [hc, ih]

/-- The scan to the right stops behind the beginning of a word that it starts before. -/
theorem wordStop_append (left right : List Char) :
    wordStop (left ++ right) left.length =
      .ok ((left.length + (right.takeWhile isInWord).length : Nat) : Int) := by
  induction right generalizing left with
  | nil => rw [wordStop, if_neg (by simp)]; simp
  | cons c right ih =>
    have hinside : (left.length : Int) < ((left ++ c :: right).length : Nat) := by
      rw [List.length_append, List.length_cons]
      omega
    rw [wordStop, if_pos hinside, charAt_append_cons]
    cases hc : isInWord c with
    | false => simp [hc]
    | true =>
      have hcolumn : (left.length : Int) + 1 = ((left ++ [c]).length : Nat) := by simp
      have hline : left ++ c :: right = left ++ [c] ++ right := by simp
      have hlength : (left ++ [c]).length + (right.takeWhile isInWord).length =
          left.length + ((c :: right).takeWhile isInWord).length := by
        rw [List.takeWhile_cons_of_pos hc, List.length_append, List.length_singleton,
          List.length_cons]
        omega
      simp only [hc, if_true]
      rw [hcolumn, hline, ih, hlength]

theorem wordInLine_append (left right : List Char) :
    wordInLine (left ++ right) left.length =
      .ok (wordBefore left ++ right.takeWhile isInWord) := by
  have hscan : wordInLine (left ++ right) left.length =
      .ok (slice (left ++ right) (left.length - (wordBefore left).length : Nat)
        (left.length + (right.takeWhile isInWord).length : Nat)) := by
    rw [wordInLine, wordStart_append, wordStop_append]
    rfl
  obtain ⟨far, hline, hlength, -⟩ := exists_cut left right
  have hstart : left.length - (wordBefore left).length = far.length := by omega
  have hstop : left.length + (right.takeWhile isInWord).length =
      far.length + (wordBefore left ++ right.takeWhile isInWord).length := by
    rw [List.length_append]
    omega
  rw [hscan, slice_natCast, hstart, hstop, hline, extract_middle]

/-- The scans of a line find the word around the column. -/
theorem wordInLine_of_le {line : List Char} {column : Nat} (h : column ≤ line.length) :
    wordInLine line column = .ok (wordAround line column) := by
  have hscan := wordInLine_append (line.take column) (line.drop column)
  rwa [List.take_append_drop, List.length_take_of_le h] at hscan

/-- A column past the end of the line has no character before it. -/
theorem wordInLine_of_lt {line : List Char} {column : Nat} (h : line.length < column) :
    wordInLine line column = .error .column := by
  have hbefore : (column : Int) - 1 = (column - 1 : Nat) := by omega
  have hstart : wordStart line column = .error .column := by
    rw [wordStart, if_pos (by omega), hbefore, charAt_of_length_le (by omega)]
  rw [wordInLine, hstart]
  rfl

theorem lineAt_natCast (lines : List (List Char)) (n : Nat) : lineAt lines n = .ok lines[n]? := by
  rw [lineAt, item?_natCast]
  split
  · next h => rw [List.getElem?_eq_none (by omega)]
  · next h => rw [List.getElem?_eq_getElem (by omega)]

/-! ## The word around a column -/

/-- The characters of a line from `start` up to `stop` surround a column, and no space, tab,
    parenthesis, quote mark, newline or carriage return is among them. -/
structure IsStretch (line : List Char) (column start stop : Nat) : Prop where
  start_le : start ≤ column
  le_stop : column ≤ stop
  stop_le : stop ≤ line.length
  free : ∀ c ∈ line.extract start stop, c ∉ [' ', '\t', '(', ')', '\x27', '\n', '\r']

/-- A stretch around a column that contains all others. -/
structure IsMaximalStretch (line : List Char) (column start stop : Nat) : Prop
    extends IsStretch line column start stop where
  widest : ∀ start' stop', IsStretch line column start' stop' → start ≤ start' ∧ stop' ≤ stop

theorem isInWord_iff {c : Char} :
    isInWord c = true ↔ c ∉ [' ', '\t', '(', ')', '\x27', '\n', '\r'] := by
  simp [isInWord, and_assoc]

/-- A character of a line is in every piece of the line that covers its column. -/
theorem mem_extract_of_getElem? {cs : List Char} {i start stop : Nat} {c : Char}
    (hc : cs[i]? = some c) (hstart : start ≤ i) (hstop : i < stop) :
    c ∈ cs.extract start stop := by
  rw [List.extract_eq_take_drop]
  refine List.mem_of_getElem? (i := i - start) ?_
  rw [List.getElem?_take_of_lt (by omega), List.getElem?_drop, Nat.add_sub_cancel' hstart, hc]

theorem IsStretch.isInWord {cs : List Char} {column start stop i : Nat} {c : Char}
    (h : IsStretch cs column start stop) (hc : cs[i]? = some c) (hstart : start ≤ i)
    (hstop : i < stop) : isInWord c = true :=
  isInWord_iff.2 (h.free c (mem_extract_of_getElem? hc hstart hstop))

theorem IsStretch.isEmpty_extract_iff {line : List Char} {column start stop : Nat}
    (h : IsStretch line column start stop) :
    (line.extract start stop).isEmpty = true ↔ start = stop := by
  have hstart := h.start_le
  have hstop := h.le_stop
  have hinside := h.stop_le
  rw [List.isEmpty_iff_length_eq_zero, List.extract_eq_take_drop, List.length_take,
    List.length_drop]
  omega

/-- The word around a column stands between two characters that are in no word, or at the ends of the
    line. -/
theorem wordAround_cut {line : List Char} {column : Nat} (h : column ≤ line.length) :
    ∃ far rest, line = far ++ (wordAround line column ++ rest) ∧
      far.length ≤ column ∧ column ≤ far.length + (wordAround line column).length ∧
      (∀ c ∈ wordAround line column, isInWord c = true) ∧
      (∀ c ∈ far.getLast?, isInWord c = false) ∧ ∀ c ∈ rest.head?, isInWord c = false := by
  -- The line is cut at the column; the word takes from both parts what is next to the cut.
  obtain ⟨left, right, rfl, rfl⟩ : ∃ left right, line = left ++ right ∧ column = left.length :=
    ⟨line.take column, line.drop column, (List.take_append_drop column line).symm, by simp [h]⟩
  rw [wordAround_append]
  obtain ⟨far, hline, hlength, hlast⟩ := exists_cut left right
  refine ⟨far, right.dropWhile isInWord, hline, ?_, ?_, ?_, hlast, ?_⟩
  · omega
  · rw [List.length_append]
    omega
  · intro c hc
    rcases List.mem_append.1 hc with hc | hc
    · exact List.mem_takeWhile_imp (List.mem_reverse.1 hc)
    · exact List.mem_takeWhile_imp hc
  · intro c hc
    have hnot := List.head?_dropWhile_not isInWord right
    rwa [Option.mem_def.1 hc] at hnot

/-- A word between two characters that are in no word is the widest stretch around each of its
    columns. -/
theorem isMaximalStretch_of_cut {far word rest : List Char} {column : Nat}
    (hstart : far.length ≤ column) (hstop : column ≤ far.length + word.length)
    (hword : ∀ c ∈ word, isInWord c = true) (hbefore : ∀ c ∈ far.getLast?, isInWord c = false)
    (hafter : ∀ c ∈ rest.head?, isInWord c = false) :
    IsMaximalStretch (far ++ (word ++ rest)) column far.length (far.length + word.length) := by
  refine ⟨⟨hstart, hstop, by simp, ?_⟩, fun start' stop' hother => ⟨?_, ?_⟩⟩
  · rw [extract_middle]
    exact fun c hc => isInWord_iff.1 (hword c hc)
  · -- A stretch that begins earlier contains the character before the word.
    by_contra hlt
    have hlast := hother.le_stop
    rcases List.eq_nil_or_concat far with rfl | ⟨more, c, rfl⟩
    · exact hlt (Nat.zero_le start')
    · rw [List.length_concat] at hstart hlt
      have hc : (more.concat c ++ (word ++ rest))[more.length]? = some c := by simp
      have hin := hother.isInWord hc (by omega) (by omega)
      rw [hbefore c (by simp)] at hin
      cases hin
  · -- A stretch that ends later contains the character after the word.
    by_contra hlt
    have hfirst := hother.start_le
    have hinside := hother.stop_le
    cases rest with
    | nil =>
      rw [List.append_nil, List.length_append] at hinside
      exact hlt hinside
    | cons c rest =>
      have hc : (far ++ (word ++ c :: rest))[far.length + word.length]? = some c := by simp
      have hin := hother.isInWord hc (by omega) (by omega)
      rw [hafter c rfl] at hin
      cases hin

/-- The word around a column is the widest stretch there. -/
theorem exists_isMaximalStretch {line : List Char} {column : Nat} (h : column ≤ line.length) :
    ∃ start stop, IsMaximalStretch line column start stop ∧
      wordAround line column = line.extract start stop := by
  obtain ⟨far, rest, hline, hstart, hstop, hword, hbefore, hafter⟩ := wordAround_cut h
  have hmax := isMaximalStretch_of_cut hstart hstop hword hbefore hafter
  have hextract := extract_middle far (wordAround line column) rest
  rw [← hline] at hmax hextract
  exact ⟨_, _, hmax, hextract.symm⟩

/-! ## The word at a place -/

theorem wordAt_of_length_le {text : String} {n : Nat}
    (h : (Text.splitLines text.toList).length ≤ n) (column : Nat) :
    wordAt text n column = .ok none := by
  rw [wordAt, lineAt_natCast, List.getElem?_eq_none h]
  rfl

theorem wordAt_eq_map {text : String} {n : Nat} {line : List Char}
    (hline : (Text.splitLines text.toList)[n]? = some line) (column : Nat) :
    wordAt text n column = (wordInLine line column).map fun word =>
      if word.isEmpty then none else some (String.ofList word) := by
  rw [wordAt, lineAt_natCast, hline]
  cases hword : wordInLine line column <;> simp [bind, Except.bind, hword, pure, Except.pure, Except.map]

theorem wordAt_of_line {text : String} {n column : Nat} {line : List Char}
    (hline : (Text.splitLines text.toList)[n]? = some line) (hcolumn : column ≤ line.length)
    (hword : wordAround line column ≠ []) :
    wordAt text n column = .ok (some (String.ofList (wordAround line column))) := by
  rw [wordAt_eq_map hline, wordInLine_of_le hcolumn]
  simp [Except.map, hword]

theorem wordAt_congr {text other : String} {n : Nat}
    (h : (Text.splitLines text.toList)[n]? = (Text.splitLines other.toList)[n]?) (column : Nat) :
    wordAt text n column = wordAt other n column := by
  rw [wordAt, wordAt, lineAt_natCast, lineAt_natCast, h]

/-- At the recorded place of a piece stands the piece, with what extends it on both sides. -/
theorem wordAt_piece {text : String} {left piece right : List Char}
    (htext : text.toList = left ++ (piece ++ right)) (hne : piece ≠ [])
    (hpiece : ∀ c ∈ piece, Token.isAtomChar c = true)
    (hlines : Text.lineEnds left = left.count '\n') :
    wordAt text (left.count '\n') (Text.afterNewline left).length =
      .ok (some (String.ofList (wordBefore left ++ (piece ++ wordAfter right)))) := by
  have hline := Text.getElem?_splitLines_of_newlines (List.append_ne_nil_of_left_ne_nil hne right) hlines
  have hword : wordAround (Text.afterNewline left ++ Text.firstLine (piece ++ right))
      (Text.afterNewline left).length = wordBefore left ++ (piece ++ wordAfter right) := by
    rw [wordAround_append, wordBefore_afterNewline, ← wordAfter_append hpiece, wordAfter]
  rw [← htext] at hline
  rw [← hword]
  refine wordAt_of_line hline (by simp) ?_
  rw [hword]
  simp [hne]

/-- After a line end of another kind, the recorded place of a piece lies in the text before it. -/
theorem wordAt_before {text : String} {left piece right : List Char}
    (htext : text.toList = left ++ (piece ++ right)) (hne : piece ≠ [])
    (hpiece : ∀ c ∈ piece, Token.isAtomChar c = true)
    (hlines : Text.lineEnds left ≠ left.count '\n') (column : Nat) :
    wordAt text (left.count '\n') column = wordAt (String.ofList left) (left.count '\n') column := by
  have hlt : left.count '\n' < Text.lineEnds left :=
    Nat.lt_of_le_of_ne (Text.count_newline_le_lineEnds left) (Ne.symm hlines)
  have hhead : (piece ++ right).head? ≠ some '\n' := by
    obtain ⟨c, cs, rfl⟩ := List.exists_cons_of_ne_nil hne
    rintro ⟨rfl⟩
    exact absurd (hpiece '\n' List.mem_cons_self) (by decide)
  refine wordAt_congr ?_ column
  rw [htext, String.toList_ofList]
  exact Text.getElem?_splitLines_append hhead hlt

/-- The word at a place, for every line number and every column. Past the last line there is none. In a
    line, a column past its end, with the line end counted in, is an error, and at every other column
    the word is the widest stretch of the line around the column without a space, tab, parenthesis,
    quote mark, newline or carriage return, if that is not empty. -/
theorem wordAt_is_maximal_stretch (text : String) (n column : Nat) :
    ((Text.splitLines text.toList).length ≤ n → wordAt text n column = .ok none) ∧
    ∀ line, (Text.splitLines text.toList)[n]? = some line →
      (wordAt text n column = .error .column ↔ line.length < column) ∧
      (column ≤ line.length → ∃ start stop, IsMaximalStretch line column start stop ∧
        wordAt text n column =
          .ok (if start = stop then none else some (String.ofList (line.extract start stop)))) := by
  refine ⟨fun h => wordAt_of_length_le h column, fun line hline => ?_⟩
  have hword := wordAt_eq_map hline column
  by_cases hcolumn : column ≤ line.length
  · rw [wordInLine_of_le hcolumn] at hword
    refine ⟨⟨fun h => ?_, fun h => absurd h (Nat.not_lt.2 hcolumn)⟩, fun _ => ?_⟩
    · rw [hword] at h
      cases h
    · obtain ⟨start, stop, hmax, heq⟩ := exists_isMaximalStretch hcolumn
      refine ⟨start, stop, hmax, ?_⟩
      rw [hword, heq]
      simp [Except.map, hmax.isEmpty_extract_iff]
  · rw [wordInLine_of_lt (Nat.not_le.1 hcolumn)] at hword
    exact ⟨⟨fun _ => Nat.not_le.1 hcolumn, fun _ => hword⟩, fun h => absurd h hcolumn⟩

/-- In the last line of `x⏎ab (cd`, which has no line end, the column after the last character gives the
    word before it; the next column is an error, and there is no third line. -/
theorem wordAt_is_maximal_stretch_last_line :
    let text := "x\nab (cd"
    let line := "ab (cd".toList
    (Text.splitLines text.toList).length = 2 ∧ (Text.splitLines text.toList)[1]? = some line ∧
      wordAt text 2 0 = .ok none ∧ wordAt text 1 7 = .error .column ∧
      ∃ start stop, IsMaximalStretch line 6 start stop ∧ wordAt text 1 6 =
        .ok (if start = stop then none else some (String.ofList (line.extract start stop))) := by
  intro text line
  have hlength : (Text.splitLines text.toList).length = 2 := by decide
  have hline : (Text.splitLines text.toList)[1]? = some line := by decide
  exact ⟨hlength, hline, (wordAt_is_maximal_stretch text 2 0).1 (by rw [hlength]),
    ((wordAt_is_maximal_stretch text 1 7).2 line hline).1.2 (by decide),
    ((wordAt_is_maximal_stretch text 1 6).2 line hline).2 (by decide)⟩

/-! ## The word at a definition -/

/-- A piece is the word at its place exactly if no character next to it goes on with a word. -/
theorem wordAt_piece_iff {text name : String} {left right : List Char}
    (htext : text.toList = left ++ (name.toList ++ right)) (hne : name.toList ≠ [])
    (hname : ∀ c ∈ name.toList, Token.isAtomChar c = true)
    (hlines : Text.lineEnds left = left.count '\n') :
    wordAt text (left.count '\n') (Text.afterNewline left).length = .ok (some name) ↔
      (∀ c ∈ left.getLast?, isInWord c = false) ∧ ∀ c ∈ right.head?, isInWord c = false := by
  rw [wordAt_piece htext hne hname hlines, ← wordBefore_eq_nil_iff, ← wordAfter_eq_nil_iff]
  refine ⟨fun heq => ?_, fun ⟨hbefore, hafter⟩ => ?_⟩
  · have hword : wordBefore left ++ (name.toList ++ wordAfter right) = name.toList := by
      have hchars := congrArg String.toList (Option.some.inj (Except.ok.inj heq))
      rwa [String.toList_ofList] at hchars
    have hlength := congrArg List.length hword
    rw [List.length_append, List.length_append] at hlength
    exact ⟨List.eq_nil_of_length_eq_zero (by omega), List.eq_nil_of_length_eq_zero (by omega)⟩
  · rw [hbefore, hafter, List.nil_append, List.append_nil, String.ofList_toList]

/-- The word at the place that is recorded for a name, if the name is an atom. The name stands in the
    text between `before` and `after`. If the lines that end in `before` all end in newlines, the word is
    the name exactly if no character next to the name goes on with a word, as a semicolon and a no-break
    space do. If some line in `before` ends otherwise, the answer is that for `before` alone, without the
    name. -/
theorem wordAt_definition (text name : String) (d : Definition)
    (hd : (Index.of text).functions.get? name = some d) (hatom : ⟨.atom, name⟩ ∈ Token.lex text) :
    ∃ s ∈ spans text, s.text = name ∧ d.place = Text.position text.toList s.start ∧
      let before := text.toList.take s.start
      let after := text.toList.drop s.stop
      (Text.lineEnds before = before.count '\n' →
        (wordAt text d.place.line d.place.column = .ok (some name) ↔
          (∀ c ∈ before.getLast?, isInWord c = false) ∧ ∀ c ∈ after.head?, isInWord c = false)) ∧
      (Text.lineEnds before ≠ before.count '\n' →
        wordAt text d.place.line d.place.column =
          wordAt (String.ofList before) d.place.line d.place.column) := by
  obtain ⟨s, hs, rfl, -, hplace⟩ := Index.exists_span_of_get?_functions hd
  obtain ⟨left, right, htext, hstart, hstop⟩ := standsIn_of_mem_spans hs
  have hwritten := Token.written_of_mem_ofChars hatom
  have hne := hwritten.text_ne_nil
  have hchars : ∀ c ∈ s.text.toList, Token.isAtomChar c = true := fun c hc => hwritten.isAtomChar hc
  refine ⟨s, hs, rfl, hplace, ?_⟩
  have hbefore : text.toList.take s.start = left := by rw [htext, hstart, List.take_left]
  have hafter : text.toList.drop s.stop = right := by
    rw [htext, hstop, ← List.length_append, ← List.append_assoc, List.drop_left]
  have hrecorded : d.place = ⟨left.count '\n', (Text.afterNewline left).length⟩ := by
    rw [hplace, htext, hstart, Text.position_append]
  rw [hbefore, hafter, hrecorded]
  exact ⟨wordAt_piece_iff htext hne hchars, fun hlines => wordAt_before htext hne hchars hlines _⟩

/-- In `(a)⏎(defun f (x) x)` with a carriage return before the newline, the word at the place recorded for
    `f` is `f`. -/
theorem wordAt_definition_return :
    let text := "(a)\r\n(defun f (x) x)"
    let d : Definition := ⟨"f", ["x"], ⟨1, 7⟩⟩
    (Index.of text).functions.get? "f" = some d ∧ wordAt text 1 7 = .ok (some "f") := by
  intro text d
  have hd : (Index.of text).functions.get? "f" = some d := by decide +kernel
  obtain ⟨s, hs, hname, -, hword, -⟩ := wordAt_definition text "f" d hd (by decide +kernel)
  have honly : ∀ s ∈ spans text, s.text = "f" → s = ⟨"f", 12, 13⟩ := by decide +kernel
  obtain rfl := honly s hs hname
  have hlines : Text.lineEnds (text.toList.take 12) = (text.toList.take 12).count '\n' := by
    decide +kernel
  have hbefore : (text.toList.take 12).getLast?.all (fun c => isInWord c = false) = true := by
    decide +kernel
  have hafter : (text.toList.drop 13).head?.all (fun c => isInWord c = false) = true := by
    decide +kernel
  rw [Option.all_eq_true] at hbefore hafter
  simp only [decide_eq_true_eq] at hbefore hafter
  exact ⟨hd, (hword hlines).2 ⟨hbefore, hafter⟩⟩

/-- The word at a definition is not always its name: in `(defun f;the name⏎ (x) x)` it goes on into the
    comment. -/
theorem wordAt_definition_comment :
    ¬ ∀ (text name : String) (d : Definition), (Index.of text).functions.get? name = some d →
      ⟨.atom, name⟩ ∈ Token.lex text →
      wordAt text d.place.line d.place.column = .ok (some name) := by
  intro h
  have hword := h "(defun f;the name\n (x) x)" "f" ⟨"f", ["x"], ⟨0, 7⟩⟩ (by decide +kernel)
    (by decide +kernel)
  exact absurd hword (by decide +kernel)

end Editor

end MiniLisp
