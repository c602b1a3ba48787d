import MiniLisp.Token

/-! # The layout of a text

A text is a gap, and then tokens with a gap after each. Cutting a text into tokens gives the tokens
of such a layout, and every layout is cut into the tokens that it was made of. So nothing but blanks
and comments is ever dropped, and a line end is a seam at which texts can be joined. -/

namespace MiniLisp.Token

/-! ## One token at a time -/

theorem ofChars_nil : ofChars [] = [] := by
  rw [ofChars]

/-- The rest of a text does not go on with the atom before it. -/
def EndsAtom (rest : List Char) : Prop := ∀ c ∈ rest.head?, isAtomChar c = false

theorem ofChars_blank {c : Char} (h : Text.isBlank c = true) (rest : List Char) :
    ofChars (c :: rest) = ofChars rest := by
  rw [ofChars, if_pos h]

theorem ofChars_delimiter {c : Char} {kind : Kind} (hblank : Text.isBlank c = false)
    (hcomment : c ≠ ';') (hkind : delimiter? c = some kind) (rest : List Char) :
    ofChars (c :: rest) = ⟨kind, c.toString⟩ :: ofChars rest := by
  rw [ofChars, if_neg (by simp [hblank]), if_neg hcomment, hkind]

theorem ofChars_lparen (rest : List Char) :
    ofChars ('(' :: rest) = ⟨.lparen, "("⟩ :: ofChars rest :=
  ofChars_delimiter (by decide) (by decide) rfl rest

theorem ofChars_rparen (rest : List Char) :
    ofChars (')' :: rest) = ⟨.rparen, ")"⟩ :: ofChars rest :=
  ofChars_delimiter (by decide) (by decide) rfl rest

theorem ofChars_quote (rest : List Char) :
    ofChars ('\x27' :: rest) = ⟨.quote, "'"⟩ :: ofChars rest :=
  ofChars_delimiter (by decide) (by decide) rfl rest

/-- A run of atom characters that ends where it should is one token. -/
theorem ofChars_atom {c : Char} {cs rest : List Char} (hc : isAtomChar c = true)
    (hcs : ∀ d ∈ cs, isAtomChar d = true) (hrest : EndsAtom rest) :
    ofChars (c :: (cs ++ rest)) = ⟨.atom, String.ofList (c :: cs)⟩ :: ofChars rest := by
  simp only [isAtomChar, Bool.and_eq_true, Bool.not_eq_true', decide_eq_true_eq] at hc
  obtain ⟨⟨⟨⟨hblank, hopen⟩, hclose⟩, hcomment⟩, hquote⟩ := hc
  have hkind : delimiter? c = none := by
    rw [delimiter?, if_neg hopen, if_neg hclose, if_neg hquote]
  have hstop : rest.takeWhile isAtomChar = [] ∧ rest.dropWhile isAtomChar = rest := by
    cases rest with
    | nil => exact ⟨rfl, rfl⟩
    | cons d rest =>
      have hd : isAtomChar d = false := hrest d rfl
      simp [hd]
  rw [ofChars, if_neg (by simp [hblank]), if_neg hcomment, hkind]
  simp only [List.takeWhile_append_of_pos hcs, List.dropWhile_append_of_pos hcs, hstop,
    List.append_nil]

/-- The rest of a text begins a new line, or there is none. -/
def EndsLine (rest : List Char) : Prop := ∀ c ∈ rest.head?, c = '\n'

/-- A comment is skipped up to the end of its line, or of the text. -/
theorem ofChars_comment {body rest : List Char} (hbody : '\n' ∉ body) (hrest : EndsLine rest) :
    ofChars (';' :: (body ++ rest)) = ofChars rest := by
  have hall : ∀ c ∈ body, decide (c ≠ '\n') = true := by
    intro c hc
    have hne : c ≠ '\n' := fun heq => hbody (heq ▸ hc)
    simpa using hne
  have hstop : rest.dropWhile (· ≠ '\n') = rest := by
    cases rest with
    | nil => rfl
    | cons d rest =>
      have hd : d = '\n' := hrest d rfl
      simp [hd]
  rw [ofChars, if_neg (by decide), if_pos rfl, List.dropWhile_append_of_pos hall, hstop]

/-! ## Gaps -/

/-- The text between tokens: blanks, and comments with the line ends that close them. -/
inductive Gap : List Char → Prop where
  | nil : Gap []
  | blank {c : Char} {gap : List Char} (isBlank : Text.isBlank c = true) (rest : Gap gap) :
      Gap (c :: gap)
  | comment {body gap : List Char} (oneLine : '\n' ∉ body) (rest : Gap gap) :
      Gap (';' :: (body ++ '\n' :: gap))

/-- The text after the last token: a gap, perhaps with a comment that the end of the text closes. -/
inductive LastGap : List Char → Prop where
  | closed {gap : List Char} (closed : Gap gap) : LastGap gap
  | comment {gap body : List Char} (before : Gap gap) (oneLine : '\n' ∉ body) :
      LastGap (gap ++ ';' :: body)

theorem endsLine_newline (rest : List Char) : EndsLine ('\n' :: rest) := by
  intro c hc
  cases hc
  rfl

theorem EndsLine.endsAtom {rest : List Char} (h : EndsLine rest) : EndsAtom rest := by
  intro c hc
  rw [h c hc]
  decide

theorem Gap.append {gap gap' : List Char} (h : Gap gap) (h' : Gap gap') : Gap (gap ++ gap') := by
  induction h with
  | nil => exact h'
  | blank isBlank _ ih => exact .blank isBlank ih
  | comment oneLine _ ih =>
    rw [List.cons_append, List.append_assoc, List.cons_append]
    exact .comment oneLine ih

theorem LastGap.append {gap gap' : List Char} (h : Gap gap) (h' : LastGap gap') :
    LastGap (gap ++ gap') := by
  cases h' with
  | closed closed => exact .closed (h.append closed)
  | comment before oneLine =>
    rw [← List.append_assoc]
    exact .comment (h.append before) oneLine

/-- A gap leaves no tokens. -/
theorem Gap.ofChars_append {gap : List Char} (h : Gap gap) (rest : List Char) :
    ofChars (gap ++ rest) = ofChars rest := by
  induction h with
  | nil => rfl
  | blank isBlank _ ih => rw [List.cons_append, ofChars_blank isBlank, ih]
  | @comment body gap oneLine _ ih =>
    have hline := endsLine_newline (gap ++ rest)
    rw [List.cons_append, List.append_assoc, List.cons_append, ofChars_comment oneLine hline,
      ofChars_blank (by decide), ih]

theorem LastGap.ofChars_append {gap rest : List Char} (h : LastGap gap) (hrest : EndsLine rest) :
    ofChars (gap ++ rest) = ofChars rest := by
  cases h with
  | closed closed => exact closed.ofChars_append rest
  | comment before oneLine =>
    rw [List.append_assoc, before.ofChars_append, List.cons_append, ofChars_comment oneLine hrest]

theorem Gap.endsAtom {gap : List Char} (h : Gap gap) : EndsAtom gap := by
  intro c hc
  cases h with
  | nil => cases hc
  | blank isBlank _ =>
    cases hc
    simp [isAtomChar, isBlank]
  | comment _ _ =>
    cases hc
    decide

theorem LastGap.endsAtom {gap : List Char} (h : LastGap gap) : EndsAtom gap := by
  cases h with
  | closed closed => exact closed.endsAtom
  | @comment gap body before oneLine =>
    intro c hc
    cases gap with
    | nil =>
      cases hc
      decide
    | cons d gap => exact before.endsAtom c hc

/-! ## Layouts -/

/-- The tokens that a text can contain: the two parentheses, the quote mark, and atoms, which are
    one character or more that are no blanks and none of the four special ones. -/
inductive Written : Token → Prop where
  | lparen : Written ⟨.lparen, "("⟩
  | rparen : Written ⟨.rparen, ")"⟩
  | quote : Written ⟨.quote, "'"⟩
  | atom {cs : List Char} (nonempty : cs ≠ []) (chars : ∀ c ∈ cs, isAtomChar c = true) :
      Written ⟨.atom, String.ofList cs⟩

/-- A gap and then tokens with a gap after each make up a text: only the last gap may have a comment
    without a line end, and two atoms next to each other have a gap between them that is not
    empty. -/
inductive LaidOut : List Char → List (Token × List Char) → Prop where
  | last {gap : List Char} (last : LastGap gap) : LaidOut gap []
  | token {gap next : List Char} {tok : Token} {pieces : List (Token × List Char)}
      (before : Gap gap) (written : Written tok)
      (apart : tok.kind = .atom → next = [] → ∀ piece ∈ pieces.head?, piece.1.kind ≠ .atom)
      (others : LaidOut next pieces) : LaidOut gap ((tok, next) :: pieces)

/-- The text of a layout. -/
def spell (gap : List Char) (pieces : List (Token × List Char)) : List Char :=
  gap ++ pieces.flatMap fun piece => piece.1.text.toList ++ piece.2

theorem spell_cons (gap next : List Char) (tok : Token) (pieces : List (Token × List Char)) :
    spell gap ((tok, next) :: pieces) = gap ++ (tok.text.toList ++ spell next pieces) := by
  simp [spell]

theorem spell_append (gap gap' : List Char) (pieces : List (Token × List Char)) :
    spell (gap ++ gap') pieces = gap ++ spell gap' pieces := by
  simp [spell]

/-- The gap in front can be made longer. -/
theorem LaidOut.prepend {gap gap' : List Char} {pieces : List (Token × List Char)} (hgap : Gap gap)
    (h : LaidOut gap' pieces) : LaidOut (gap ++ gap') pieces := by
  cases h with
  | last last => exact .last (.append hgap last)
  | token before written apart others => exact .token (hgap.append before) written apart others

/-! ## A layout is cut into its tokens -/

/-- A token is cut off in front of any text, an atom in front of a text that does not go on with
    it. -/
theorem Written.ofChars_append {tok : Token} (h : Written tok) {rest : List Char}
    (hrest : tok.kind = .atom → EndsAtom rest) :
    ofChars (tok.text.toList ++ rest) = tok :: ofChars rest := by
  cases h with
  | lparen => exact ofChars_lparen rest
  | rparen => exact ofChars_rparen rest
  | quote => exact ofChars_quote rest
  | atom nonempty chars =>
    obtain ⟨c, cs, rfl⟩ := List.exists_cons_of_ne_nil nonempty
    rw [String.toList_ofList]
    exact ofChars_atom (chars c List.mem_cons_self)
      (fun d hd => chars d (List.mem_cons_of_mem c hd)) (hrest rfl)

/-- Only an atom begins with a character of atoms. -/
theorem Written.endsAtom_iff {tok : Token} (h : Written tok) (rest : List Char) :
    EndsAtom (tok.text.toList ++ rest) ↔ tok.kind ≠ .atom := by
  cases h with
  | lparen => exact ⟨fun _ => nofun, fun _ c hc => by cases hc; decide⟩
  | rparen => exact ⟨fun _ => nofun, fun _ c hc => by cases hc; decide⟩
  | quote => exact ⟨fun _ => nofun, fun _ c hc => by cases hc; decide⟩
  | atom nonempty chars =>
    obtain ⟨c, cs, rfl⟩ := List.exists_cons_of_ne_nil nonempty
    rw [String.toList_ofList]
    refine ⟨fun hends => ?_, fun hkind => absurd rfl hkind⟩
    have hc : isAtomChar c = false := hends c rfl
    rw [chars c List.mem_cons_self] at hc
    cases hc

/-- A layout goes on with an atom before it if it begins with an atom, and only then. -/
theorem LaidOut.endsAtom_iff {gap : List Char} {pieces : List (Token × List Char)}
    (h : LaidOut gap pieces) :
    EndsAtom (spell gap pieces) ↔ (gap = [] → ∀ piece ∈ pieces.head?, piece.1.kind ≠ .atom) := by
  cases h with
  | last last =>
    rw [spell, List.flatMap_nil, List.append_nil]
    exact ⟨fun _ _ => nofun, fun _ => last.endsAtom⟩
  | @token _ next tok pieces before written _ others =>
    rw [spell_cons]
    cases gap with
    | nil => simpa using written.endsAtom_iff (spell next pieces)
    | cons c gap => exact ⟨fun _ => nofun, fun _ d hd => before.endsAtom d hd⟩

theorem EndsAtom.append {first rest : List Char} (hfirst : EndsAtom first) (hrest : EndsAtom rest) :
    EndsAtom (first ++ rest) := by
  cases first with
  | nil => exact hrest
  | cons c first => exact hfirst

/-- The tokens of a layout come first, whatever follows on a new line. -/
theorem LaidOut.ofChars_append {gap rest : List Char} {pieces : List (Token × List Char)}
    (h : LaidOut gap pieces) (hrest : EndsLine rest) :
    ofChars (spell gap pieces ++ rest) = pieces.map Prod.fst ++ ofChars rest := by
  induction h with
  | last last =>
    rw [spell, List.flatMap_nil, List.append_nil, last.ofChars_append hrest]
    rfl
  | @token gap next tok pieces before written apart others ih =>
    have hends : tok.kind = .atom → EndsAtom (spell next pieces ++ rest) := by
      intro hatom
      exact (others.endsAtom_iff.2 (apart hatom)).append hrest.endsAtom
    rw [spell_cons, List.append_assoc, before.ofChars_append, List.append_assoc,
      written.ofChars_append hends, ih]
    rfl

theorem LaidOut.ofChars_spell {gap : List Char} {pieces : List (Token × List Char)}
    (h : LaidOut gap pieces) : ofChars (spell gap pieces) = pieces.map Prod.fst := by
  have hend : EndsLine [] := nofun
  have hcut := h.ofChars_append hend
  rwa [List.append_nil, ofChars_nil, List.append_nil] at hcut

/-! ## Every text has a layout -/

/-- A character that is no blank and begins no comment is a token by itself, or part of an atom. -/
theorem written_or_isAtomChar {c : Char} (hblank : Text.isBlank c = false) (hcomment : c ≠ ';') :
    (∃ tok, Written tok ∧ tok.kind ≠ .atom ∧ tok.text.toList = [c]) ∨ isAtomChar c = true := by
  by_cases hopen : c = '('
  · exact Or.inl ⟨_, .lparen, nofun, hopen ▸ rfl⟩
  · by_cases hclose : c = ')'
    · exact Or.inl ⟨_, .rparen, nofun, hclose ▸ rfl⟩
    · by_cases hquote : c = '\x27'
      · exact Or.inl ⟨_, .quote, nofun, hquote ▸ rfl⟩
      · exact Or.inr (by simp [isAtomChar, hblank, hcomment, hopen, hclose, hquote])

/-- A text is cut at the first character that does not belong to a class. -/
theorem exists_run (p : Char → Bool) (cs : List Char) :
    ∃ run rest, cs = run ++ rest ∧ (∀ c ∈ run, p c = true) ∧ ∀ c ∈ rest.head?, p c = false := by
  induction cs with
  | nil => exact ⟨[], [], rfl, nofun, nofun⟩
  | cons c cs ih =>
    cases hc : p c with
    | false => exact ⟨[], c :: cs, rfl, nofun, fun d hd => by cases hd; exact hc⟩
    | true =>
      obtain ⟨run, rest, rfl, hrun, hrest⟩ := ih
      refine ⟨c :: run, rest, rfl, ?_, hrest⟩
      intro d hd
      rcases List.mem_cons.1 hd with rfl | hd
      · exact hc
      · exact hrun d hd

/-- A text that a layout spells. -/
def HasLayout (cs : List Char) : Prop := ∃ gap pieces, LaidOut gap pieces ∧ spell gap pieces = cs

theorem HasLayout.gap {gap cs : List Char} (hgap : Gap gap) (h : HasLayout cs) :
    HasLayout (gap ++ cs) := by
  obtain ⟨gap', pieces, hlaid, rfl⟩ := h
  exact ⟨gap ++ gap', pieces, hlaid.prepend hgap, spell_append gap gap' pieces⟩

theorem HasLayout.token {tok : Token} {cs : List Char} (hwritten : Written tok)
    (hends : tok.kind = .atom → EndsAtom cs) (h : HasLayout cs) :
    HasLayout (tok.text.toList ++ cs) := by
  obtain ⟨gap, pieces, hlaid, rfl⟩ := h
  have hapart := fun hatom => hlaid.endsAtom_iff.1 (hends hatom)
  exact ⟨[], (tok, gap) :: pieces, .token .nil hwritten hapart hlaid, spell_cons [] gap tok pieces⟩

theorem hasLayout : ∀ cs : List Char, HasLayout cs
  | [] => ⟨[], [], .last (.closed .nil), rfl⟩
  | c :: cs => by
    cases hblank : Text.isBlank c with
    | true => exact (hasLayout cs).gap (.blank hblank .nil)
    | false =>
      by_cases hcomment : c = ';'
      · subst hcomment
        obtain ⟨body, rest, hcs, hbody, hrest⟩ := exists_run (fun d => d ≠ '\n') cs
        have honeLine : '\n' ∉ body := by
          intro hmem
          simpa using hbody '\n' hmem
        cases rest with
        | nil =>
          -- the text ends inside the comment
          exact ⟨';' :: body, [], .last (.comment .nil honeLine), by simp [spell, hcs]⟩
        | cons d rest =>
          have hline : d = '\n' := by simpa using hrest d rfl
          have hlt : rest.length < (';' :: cs).length := by
            rw [hcs]
            simp only [List.length_cons, List.length_append]
            omega
          have hskipped := (hasLayout rest).gap (.comment honeLine .nil)
          simpa [hcs, hline] using hskipped
      · obtain ⟨tok, hwritten, hkind, htext⟩ | hatom := written_or_isAtomChar hblank hcomment
        · have hcut := (hasLayout cs).token hwritten fun h => absurd h hkind
          rwa [htext] at hcut
        · obtain ⟨run, rest, hcs, hrun, hends⟩ := exists_run isAtomChar cs
          have hchars : ∀ d ∈ c :: run, isAtomChar d = true := by
            intro d hd
            rcases List.mem_cons.1 hd with rfl | hd
            · exact hatom
            · exact hrun d hd
          have hlt : rest.length < (c :: cs).length := by
            rw [hcs]
            simp only [List.length_cons, List.length_append]
            omega
          have hcut := (hasLayout rest).token (.atom (List.cons_ne_nil c run) hchars)
            fun _ => hends
          rwa [String.toList_ofList, List.cons_append, ← hcs] at hcut
termination_by cs => cs.length

/-- A line end joins the tokens of two texts, also where the first ends in an atom or a comment. -/
theorem lex_newline (s t : String) : lex (s ++ "\n" ++ t) = lex s ++ lex t := by
  obtain ⟨gap, pieces, hlaid, hspell⟩ := hasLayout s.toList
  have hline : (s ++ "\n" ++ t).toList = s.toList ++ '\n' :: t.toList := by simp
  rw [lex, lex, lex, hline, ← hspell, hlaid.ofChars_append (endsLine_newline t.toList),
    hlaid.ofChars_spell, ofChars_blank (by decide)]

/-- Cutting a text into tokens is the inverse of laying tokens out. Every text is spelled by a layout
    of its tokens, every layout is cut into the tokens that it was made of, and a line end joins the
    tokens of two texts. -/
theorem lex_inverts_layout :
    (∀ source, ∃ gap pieces, LaidOut gap pieces ∧ source.toList = spell gap pieces ∧
      lex source = pieces.map Prod.fst) ∧
      (∀ gap pieces, LaidOut gap pieces →
        lex (String.ofList (spell gap pieces)) = pieces.map Prod.fst) ∧
      ∀ s t, lex (s ++ "\n" ++ t) = lex s ++ lex t := by
  refine ⟨?_, ?_, lex_newline⟩
  · intro source
    obtain ⟨gap, pieces, hlaid, hspell⟩ := hasLayout source.toList
    exact ⟨gap, pieces, hlaid, hspell.symm, by rw [lex, ← hspell, hlaid.ofChars_spell]⟩
  · intro gap pieces hlaid
    rw [lex, String.toList_ofList, hlaid.ofChars_spell]

/-- `; call⏎(car'x );end` is laid out in five tokens: the quote mark needs no gap on either side, and
    the last comment has no line end. -/
theorem lex_inverts_layout_adjacent :
    let gap := "; call\n".toList
    let pieces : List (Token × List Char) :=
      [(⟨.lparen, "("⟩, []), (⟨.atom, "car"⟩, []), (⟨.quote, "'"⟩, []), (⟨.atom, "x"⟩, [' ']),
       (⟨.rparen, ")"⟩, ";end".toList)]
    LaidOut gap pieces ∧ String.ofList (spell gap pieces) = "; call\n(car'x );end" ∧
      lex (String.ofList (spell gap pieces)) = pieces.map Prod.fst := by
  intro gap pieces
  have hcar : ∀ c ∈ "car".toList, isAtomChar c = true := List.all_eq_true.1 (by decide +kernel)
  have hx : ∀ c ∈ ['x'], isAtomChar c = true := List.all_eq_true.1 (by decide +kernel)
  have hlaid : LaidOut gap pieces := by
    refine .token (@Gap.comment " call".toList [] (by decide) .nil) .lparen nofun ?_
    refine .token .nil (@Written.atom "car".toList (by decide) hcar) (by simp) ?_
    refine .token .nil .quote nofun ?_
    refine .token .nil (@Written.atom ['x'] (by decide) hx) (by simp) ?_
    refine .token (.blank (by decide +kernel) .nil) .rparen nofun ?_
    exact .last (@LastGap.comment [] "end".toList .nil (by decide))
  exact ⟨hlaid, by decide +kernel, lex_inverts_layout.2.1 gap pieces hlaid⟩

end MiniLisp.Token
