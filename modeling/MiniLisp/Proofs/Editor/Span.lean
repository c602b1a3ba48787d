import MiniLisp.Editor.Span
import MiniLisp.Proofs.Reading.Layout

/-! # Spans and tokens

An editor cuts a text into segments, the reader skips gaps and takes tokens. Both see the same pieces:
the spans of a text are its tokens, each with the place where it stands. -/

namespace MiniLisp

namespace Token

/-! ## Tokens by their text -/

/-- The token with a given text. -/
def ofText (text : String) : Token :=
  ⟨if text = "(" then .lparen else if text = ")" then .rparen else if text = "'" then .quote
    else .atom, text⟩

theorem not_isAtomChar_of_delimiter {c : Char} {kind : Kind} (h : delimiter? c = some kind) :
    isAtomChar c = false := by
  rw [delimiter?] at h
  by_cases hopen : c = '('
  · simp [isAtomChar, hopen]
  · by_cases hclose : c = ')'
    · simp [isAtomChar, hclose]
    · by_cases hquote : c = '\x27'
      · simp [isAtomChar, hquote]
      · simp [hopen, hclose, hquote] at h

/-- The text of a written token says of which kind it is. -/
theorem Written.ofText_text {tok : Token} (h : Written tok) : ofText tok.text = tok := by
  cases h with
  | lparen => rfl
  | rparen => rfl
  | quote => rfl
  | @atom cs nonempty chars =>
    have hne : ∀ c, isAtomChar c = false → String.ofList cs ≠ String.ofList [c] := by
      intro c hc heq
      have hcs : cs = [c] := by simpa using congrArg String.toList heq
      have hatom := chars c (hcs ▸ List.mem_singleton_self c)
      rw [hc] at hatom
      cases hatom
    have hopen : String.ofList cs ≠ "(" := hne '(' (not_isAtomChar_of_delimiter rfl)
    have hclose : String.ofList cs ≠ ")" := hne ')' (not_isAtomChar_of_delimiter rfl)
    have hquote : String.ofList cs ≠ "'" := hne '\x27' (not_isAtomChar_of_delimiter rfl)
    simp only [ofText, hopen, hclose, hquote, if_false]

theorem Written.text_ne_nil {tok : Token} (h : Written tok) : tok.text.toList ≠ [] := by
  cases h with
  | lparen => decide
  | rparen => decide
  | quote => decide
  | atom nonempty chars => rwa [String.toList_ofList]

theorem Written.not_isBlank {tok : Token} (h : Written tok) {c : Char} (hc : c ∈ tok.text.toList) :
    Text.isBlank c = false := by
  cases h with
  | lparen => cases List.mem_singleton.1 hc; decide
  | rparen => cases List.mem_singleton.1 hc; decide
  | quote => cases List.mem_singleton.1 hc; decide
  | atom nonempty chars =>
    rw [String.toList_ofList] at hc
    have hatom := chars c hc
    simp only [isAtomChar, Bool.and_eq_true, Bool.not_eq_true'] at hatom
    exact hatom.1.1.1.1

theorem LaidOut.written {gap : List Char} {pieces : List (Token × List Char)}
    (h : LaidOut gap pieces) : ∀ piece ∈ pieces, Written piece.1 := by
  induction h with
  | last last => nofun
  | token before written apart others ih =>
    intro piece hpiece
    rcases List.mem_cons.1 hpiece with rfl | hpiece
    · exact written
    · exact ih piece hpiece

theorem written_of_mem_ofChars {cs : List Char} {tok : Token} (h : tok ∈ ofChars cs) :
    Written tok := by
  obtain ⟨gap, pieces, hlaid, rfl⟩ := hasLayout cs
  rw [hlaid.ofChars_spell] at h
  obtain ⟨piece, hpiece, rfl⟩ := List.mem_map.1 h
  exact hlaid.written piece hpiece

/-- Any number of blanks can be skipped at once. -/
theorem ofChars_dropWhile_isBlank (cs : List Char) :
    ofChars (cs.dropWhile Text.isBlank) = ofChars cs := by
  induction cs with
  | nil => rfl
  | cons c cs ih =>
    cases hblank : Text.isBlank c with
    | true => rw [List.dropWhile_cons_of_pos hblank, ih, ofChars_blank hblank]
    | false => rw [List.dropWhile_cons_of_neg (by simp [hblank])]

end Token

namespace Editor

/-! ## Segments -/

namespace Segment

theorem startedBy_eq_blank_iff {c : Char} : startedBy c = .blank ↔ Text.isBlank c = true := by
  rw [startedBy]
  split
  · next h => simp [h]
  · next h =>
    refine ⟨fun heq => ?_, fun hblank => absurd hblank h⟩
    split at heq
    · cases heq
    · split at heq <;> cases heq

theorem startedBy_eq_word_iff {c : Char} : startedBy c = .word ↔ Token.isAtomChar c = true := by
  rw [startedBy, Token.isAtomChar]
  by_cases hblank : Text.isBlank c = true
  · simp [hblank]
  · by_cases hcomment : c = ';'
    · subst hcomment
      simp [hblank]
    · by_cases hmark : c = '(' ∨ c = ')' ∨ c = '\x27'
      · rcases hmark with rfl | rfl | rfl <;> simp [hblank]
      · simp only [not_or] at hmark
        simp [hblank, hcomment, hmark]

theorem extendedBy_blank : extendedBy .blank = Text.isBlank := by
  funext c
  rw [extendedBy, Bool.eq_iff_iff, decide_eq_true_iff, startedBy_eq_blank_iff]

theorem extendedBy_word : extendedBy .word = Token.isAtomChar := by
  funext c
  rw [extendedBy, Bool.eq_iff_iff, decide_eq_true_iff, startedBy_eq_word_iff]

theorem eq_semicolon_of_startedBy {c : Char} (h : startedBy c = .comment) : c = ';' := by
  rw [startedBy] at h
  split at h
  · cases h
  · split at h
    · next hc => exact hc
    · split at h <;> cases h

theorem delimiter_of_startedBy {c : Char} (h : startedBy c = .mark) :
    Text.isBlank c = false ∧ c ≠ ';' ∧ ∃ kind, Token.delimiter? c = some kind := by
  rw [startedBy] at h
  split at h
  · cases h
  · next hblank =>
    split at h
    · cases h
    · next hcomment =>
      split at h
      · next hmark =>
        refine ⟨by simpa using hblank, hcomment, ?_⟩
        simp only [Bool.or_eq_true, decide_eq_true_eq] at hmark
        rcases hmark with (rfl | rfl) | rfl
        · exact ⟨.lparen, rfl⟩
        · exact ⟨.rparen, rfl⟩
        · exact ⟨.quote, rfl⟩
      · cases h

end Segment

/-! ## The same pieces -/

/-- The token that a span is to the reader. -/
def Span.token (s : Span) : Token := .ofText s.text

/-- A parenthesis or quote mark among spans is known by its text. -/
theorem Span.kind_token_eq_iff {tok : Token} (h : Token.Written tok) (hmark : tok.kind ≠ .atom)
    (s : Span) : s.token.kind = tok.kind ↔ s.text = tok.text := by
  refine ⟨fun hkind => ?_, fun htext => ?_⟩
  · simp only [token, Token.ofText] at hkind
    cases h with
    | lparen => grind
    | rparen => grind
    | quote => grind
    | atom nonempty chars => exact absurd rfl hmark
  · rw [token, htext, h.ofText_text]

/-- The reader takes the first segment of a text as a token if it is a span, and skips it if it is
    not. -/
theorem ofChars_segment (c : Char) (cs : List Char) :
    Token.ofChars (c :: cs) =
      (if (Segment.startedBy c).isSpan then
        [Token.ofText (String.ofList (c :: cs.takeWhile (Segment.startedBy c).extendedBy))]
      else []) ++ Token.ofChars (cs.dropWhile (Segment.startedBy c).extendedBy) := by
  cases hstart : Segment.startedBy c with
  | blank =>
    have hblank := Segment.startedBy_eq_blank_iff.1 hstart
    rw [Segment.extendedBy_blank, Token.ofChars_dropWhile_isBlank, Token.ofChars_blank hblank]
    rfl
  | comment =>
    obtain rfl := Segment.eq_semicolon_of_startedBy hstart
    rw [Token.ofChars, if_neg (by decide), if_pos rfl]
    rfl
  | mark =>
    -- Nothing extends a mark, so the segment is one character and the rest begins right after it.
    obtain ⟨hblank, hcomment, kind, hkind⟩ := Segment.delimiter_of_startedBy hstart
    have hnone : ∀ ds : List Char, ds.takeWhile (Segment.extendedBy .mark) = [] ∧
        ds.dropWhile (Segment.extendedBy .mark) = ds := by
      intro ds
      cases ds <;> exact ⟨rfl, rfl⟩
    have hcut := Token.ofChars_delimiter hblank hcomment hkind cs
    have hwritten := Token.written_of_mem_ofChars (hcut ▸ List.mem_cons_self)
    rw [hcut, (hnone cs).1, (hnone cs).2]
    exact congrArg (· :: Token.ofChars cs) hwritten.ofText_text.symm
  | word =>
    have hatom := Segment.startedBy_eq_word_iff.1 hstart
    rw [Segment.extendedBy_word]
    have hrun : ∀ d ∈ cs.takeWhile Token.isAtomChar, Token.isAtomChar d = true :=
      List.all_eq_true.1 List.all_takeWhile
    have hends : Token.EndsAtom (cs.dropWhile Token.isAtomChar) := by
      intro d hd
      have hnot := List.head?_dropWhile_not Token.isAtomChar cs
      rwa [Option.mem_def.1 hd] at hnot
    have hcut := Token.ofChars_atom hatom hrun hends
    have hwritten := Token.written_of_mem_ofChars (hcut ▸ List.mem_cons_self)
    rw [List.takeWhile_append_dropWhile] at hcut
    rw [hcut]
    exact congrArg (· :: Token.ofChars _) hwritten.ofText_text.symm

/-- The spans among the segments of a text are its tokens, wherever the text begins. -/
theorem placeSpans_token (offset : Nat) (cs : List Char) :
    (placeSpans offset (segments cs)).map Span.token = Token.ofChars cs := by
  fun_induction segments cs generalizing offset with
  | case1 => rw [Token.ofChars_nil]; rfl
  | case2 c cs segment ih =>
    rw [ofChars_segment, placeSpans]
    split
    · rw [List.map_cons, ih]
      rfl
    · rw [ih]
      rfl

theorem spans_token (text : String) : (spans text).map Span.token = Token.lex text :=
  placeSpans_token 0 text.toList

theorem written_of_mem_spans {text : String} {s : Span} (h : s ∈ spans text) :
    Token.Written s.token := by
  have hmem : s.token ∈ Token.lex text := spans_token text ▸ List.mem_map_of_mem h
  exact Token.written_of_mem_ofChars hmem

/-! ## Where the pieces stand -/

/-- The text of the span stands in `cs`, from `start` up to `stop`. -/
def Span.StandsIn (s : Span) (cs : List Char) : Prop :=
  ∃ left right, cs = left ++ (s.text.toList ++ right) ∧ s.start = left.length ∧
    s.stop = left.length + s.text.toList.length

theorem extract_middle (left piece right : List Char) :
    (left ++ (piece ++ right)).extract left.length (left.length + piece.length) = piece := by
  rw [List.extract_eq_take_drop, List.drop_left, Nat.add_sub_cancel_left, List.take_left]

theorem Span.StandsIn.extract_eq {s : Span} {cs : List Char} (h : s.StandsIn cs) :
    cs.extract s.start s.stop = s.text.toList := by
  obtain ⟨left, right, rfl, hstart, hstop⟩ := h
  rw [hstart, hstop, extract_middle]

theorem le_start_of_mem_placeSpans {offset : Nat} {segs : List (Segment × List Char)} {s : Span}
    (h : s ∈ placeSpans offset segs) : offset ≤ s.start := by
  induction segs generalizing offset with
  | nil => cases h
  | cons seg segs ih =>
    obtain ⟨segment, cs⟩ := seg
    rw [placeSpans] at h
    split at h
    · rcases List.mem_cons.1 h with rfl | h
      · exact Nat.le_refl offset
      · exact Nat.le_trans (Nat.le_add_right offset cs.length) (ih h)
    · exact Nat.le_trans (Nat.le_add_right offset cs.length) (ih h)

theorem pairwise_placeSpans (offset : Nat) (segs : List (Segment × List Char)) :
    (placeSpans offset segs).Pairwise fun s t => s.stop ≤ t.start := by
  induction segs generalizing offset with
  | nil => exact .nil
  | cons seg segs ih =>
    obtain ⟨segment, cs⟩ := seg
    rw [placeSpans]
    split
    · exact .cons (fun s hs => le_start_of_mem_placeSpans hs) (ih _)
    · exact ih _

theorem standsIn_of_mem_placeSpans {before : List Char} {segs : List (Segment × List Char)}
    {s : Span} (h : s ∈ placeSpans before.length segs) :
    s.StandsIn (before ++ (segs.map Prod.snd).flatten) := by
  induction segs generalizing before with
  | nil => cases h
  | cons seg segs ih =>
    obtain ⟨segment, cs⟩ := seg
    rw [placeSpans, ← List.length_append] at h
    rw [List.map_cons, List.flatten_cons]
    have hlater : s ∈ placeSpans (before ++ cs).length segs →
        s.StandsIn (before ++ (cs ++ (segs.map Prod.snd).flatten)) := by
      intro hs
      rw [← List.append_assoc]
      exact ih hs
    split at h
    · rcases List.mem_cons.1 h with rfl | h
      · exact ⟨before, _, by rw [String.toList_ofList], rfl, by simp⟩
      · exact hlater h
    · exact hlater h

theorem standsIn_of_mem_spans {text : String} {s : Span} (h : s ∈ spans text) :
    s.StandsIn text.toList := by
  have hstands : s.StandsIn ([] ++ ((segments text.toList).map Prod.snd).flatten) :=
    standsIn_of_mem_placeSpans h
  rwa [List.nil_append, flatten_segments] at hstands

theorem start_lt_stop_of_mem_spans {text : String} {s : Span} (h : s ∈ spans text) :
    s.start < s.stop := by
  obtain ⟨left, right, -, hstart, hstop⟩ := standsIn_of_mem_spans h
  have hlength : 0 < s.text.toList.length :=
    List.length_pos_iff.2 (written_of_mem_spans h).text_ne_nil
  omega

/-- The pieces that an editor sees in a text are the tokens that the reader sees, in the same order.
    Each stands in the text where its offsets say, and none overlaps the ones before. -/
theorem spans_agree_with_tokens (text : String) :
    (spans text).map Span.text = (Token.lex text).map Token.text ∧
      (∀ s ∈ spans text, text.toList.extract s.start s.stop = s.text.toList ∧ s.start < s.stop) ∧
      (spans text).Pairwise fun s t => s.stop ≤ t.start := by
  refine ⟨?_, ?_, pairwise_placeSpans 0 _⟩
  · rw [← spans_token, List.map_map]
    rfl
  · intro s hs
    exact ⟨(standsIn_of_mem_spans hs).extract_eq, start_lt_stop_of_mem_spans hs⟩

/-- In `(a;b⏎'c` the last piece stands after a comment and next to a quote mark. -/
theorem spans_agree_with_tokens_comment :
    let text := "(a;b\n'c"
    let s : Span := ⟨"c", 6, 7⟩
    s ∈ spans text ∧ text.toList.extract s.start s.stop = s.text.toList ∧ s.start < s.stop := by
  intro text s
  have hmem : s ∈ spans text := by decide +kernel
  exact ⟨hmem, (spans_agree_with_tokens text).2.1 s hmem⟩

end Editor

end MiniLisp
