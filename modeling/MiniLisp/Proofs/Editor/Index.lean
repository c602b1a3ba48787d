import MiniLisp.Editor.Index
import MiniLisp.Proofs.Editor.Span
import MiniLisp.Proofs.Line
import MiniLisp.Proofs.Table

/-! # What the index holds

Every definition in the index of a text was found at a span of the text, its name; and the entry of a
name is the last definition that was found under it. The places that the index records, of entries and
of problems, are those of names. -/

namespace MiniLisp.Editor

/-! ## Definitions among spans -/

/-- Among the pieces a definition begins: an opening parenthesis, `DEFUN` in any case and the name,
    with the pieces `later` after it. -/
def Defines (pieces : List Span) (name : Span) (later : List Span) : Prop :=
  ∃ earlier opening head, pieces = earlier ++ opening :: head :: name :: later ∧
    opening.text = "(" ∧ Text.upper head.text = "DEFUN" ∧ name.text ≠ "(" ∧ name.text ≠ ")"

theorem Defines.mem {pieces : List Span} {name : Span} {later : List Span}
    (h : Defines pieces name later) : name ∈ pieces := by
  obtain ⟨earlier, opening, head, rfl, -⟩ := h
  simp

namespace Definition

/-- What stands after an opening parenthesis that a definition was found at. -/
theorem after?_eq_some {text : List Char} {pieces : List Span} {d : Definition}
    (h : after? text pieces = some d) :
    ∃ head name rest, pieces = head :: name :: rest ∧ Text.upper head.text = "DEFUN" ∧
      name.text ≠ "(" ∧ name.text ≠ ")" ∧
      d = ⟨name.text, paramsOf (rest.map Span.text), Text.position text name.start⟩ := by
  rw [after?.eq_def] at h
  split at h
  · next head name rest =>
    split at h
    · next hguard =>
      simp only [Bool.and_eq_true, decide_eq_true_eq] at hguard
      obtain ⟨⟨hhead, hopen⟩, hclose⟩ := hguard
      exact ⟨head, name, rest, rfl, hhead, hopen, hclose, (Option.some.inj h).symm⟩
    · cases h
  · cases h

/-- Every definition that is found begins among the pieces. -/
theorem defines_of_mem_among {text : List Char} {pieces : List Span} {d : Definition}
    (h : d ∈ among text pieces) :
    ∃ name later, Defines pieces name later ∧
      d = ⟨name.text, paramsOf (later.map Span.text), Text.position text name.start⟩ := by
  induction pieces with
  | nil => cases h
  | cons piece pieces ih =>
    have hlater : d ∈ among text pieces → ∃ name later, Defines (piece :: pieces) name later ∧
        d = ⟨name.text, paramsOf (later.map Span.text), Text.position text name.start⟩ := by
      intro hd
      obtain ⟨name, later, ⟨earlier, opening, head, rfl, hdefun⟩, heq⟩ := ih hd
      exact ⟨name, later, ⟨piece :: earlier, opening, head, rfl, hdefun⟩, heq⟩
    rw [among] at h
    split at h
    · next hopening =>
      rcases List.mem_append.1 h with hd | hd
      · obtain ⟨head, name, rest, rfl, hdefun⟩ := after?_eq_some (Option.mem_toList.1 hd)
        obtain ⟨hhead, hopen, hclose, heq⟩ := hdefun
        exact ⟨name, rest, ⟨[], piece, head, rfl, hopening, hhead, hopen, hclose⟩, heq⟩
      · exact hlater hd
    · exact hlater h

/-- A definition is found at the span that is its name. -/
theorem exists_span_of_mem_among {text : List Char} {pieces : List Span} {d : Definition}
    (h : d ∈ among text pieces) :
    ∃ s ∈ pieces, d.name = s.text ∧ d.place = Text.position text s.start := by
  obtain ⟨name, later, hdefines, rfl⟩ := defines_of_mem_among h
  exact ⟨name, hdefines.mem, rfl, rfl⟩

end Definition

/-! ## The table of functions -/

theorem Index.get?_functions (text name : String) :
    (Index.of text).functions.get? name =
      ((Definition.among text.toList (spans text)).filter fun d => d.name = name).getLast? := by
  have hlast := Table.get?_insertAll_eq_getLast? Table.empty
    ((Definition.among text.toList (spans text)).map fun d => (d.name, d)) name
  rw [Table.get?_empty, Option.or_none, List.filter_map, List.getLast?_map, Option.map_map] at hlast
  refine hlast.trans ?_
  exact Option.map_id'

theorem Index.exists_span_of_get?_functions {text name : String} {d : Definition}
    (h : (Index.of text).functions.get? name = some d) :
    ∃ s ∈ spans text, s.text = name ∧ d.name = name ∧
      d.place = Text.position text.toList s.start := by
  rw [get?_functions] at h
  have hd := List.mem_of_getLast? h
  rw [List.mem_filter, decide_eq_true_iff] at hd
  obtain ⟨s, hs, hname, hplace⟩ := Definition.exists_span_of_mem_among hd.1
  exact ⟨s, hs, hname ▸ hd.2, hd.2, hplace⟩

/-! ## Places of names -/

/-- The place says where the span stands in the text: the line of that number goes on with the span's
    text from that column on, and up to the span the text has the lines before that one and so much of
    it as is before the column. -/
def Span.StandsAt (s : Span) (text : List Char) (place : Text.Position) : Prop :=
  ∃ line, (text.splitOn '\n')[place.line]? = some line ∧
    s.text.toList <+: line.drop place.column ∧
    (text.take s.start).splitOn '\n' =
      (text.splitOn '\n').take place.line ++ [line.take place.column]

theorem Span.StandsIn.standsAt {s : Span} {text : List Char} (h : s.StandsIn text)
    (hline : '\n' ∉ s.text.toList) : s.StandsAt text (Text.position text s.start) := by
  obtain ⟨left, right, rfl, hstart, -⟩ := h
  have hafter := Text.newline_not_mem_afterNewline left
  obtain ⟨lines, hlength, hlines⟩ := Text.exists_lines left
  have hpiece : '\n' ∉ Text.afterNewline left ++ s.text.toList := by simp [hafter, hline]
  obtain ⟨more, others, hmore⟩ := Text.exists_splitOn_append hpiece right
  have htext : (left ++ (s.text.toList ++ right)).splitOn '\n' =
      lines ++ (Text.afterNewline left ++ (s.text.toList ++ more)) :: others := by
    rw [hlines, ← List.append_assoc, hmore, List.append_assoc]
  have hleft : left.splitOn '\n' = lines ++ [Text.afterNewline left] := by
    have hbefore := hlines []
    rwa [List.append_nil, List.append_nil, List.splitOn_eq_singleton hafter] at hbefore
  rw [hstart, Text.position_append, ← hlength]
  refine ⟨Text.afterNewline left ++ (s.text.toList ++ more), ?_, ?_, ?_⟩
  · rw [htext]
    simp
  · rw [List.drop_left]
    exact List.prefix_append _ _
  · rw [hstart, List.take_left, htext, hleft, List.take_left, List.take_left]

theorem standsAt_of_defines {text : String} {name : Span} {later : List Span}
    (h : Defines (spans text) name later) :
    name.StandsAt text.toList (Text.position text.toList name.start) := by
  refine (standsIn_of_mem_spans h.mem).standsAt fun hnewline => ?_
  have hblank := (written_of_mem_spans h.mem).not_isBlank hnewline
  exact absurd hblank (by decide)

/-- The places that the index of a text records point at names. The entry of a name was found at a
    definition of that name and has the place of it there, and every problem has the place of the name of
    the definition whose formals it is about. A place is a line, counted by newlines, and a column in it
    at which the name begins. -/
theorem places_point_at_names (text : String) :
    (∀ e ∈ (Index.of text).functions.entries, ∃ name later, Defines (spans text) name later ∧
      e.1 = name.text ∧ e.2.name = name.text ∧ name.StandsAt text.toList e.2.place) ∧
    ∀ p ∈ (Index.of text).problems, ∃ name later, Defines (spans text) name later ∧
      (∃ problem ∈ paramProblems (Definition.paramsOf (later.map Span.text)),
        p.message = name.text ++ ": " ++ problem.message) ∧
      name.StandsAt text.toList p.place := by
  constructor
  · intro e he
    have hget := Table.get?_of_mem_entries he
    rw [Index.get?_functions] at hget
    obtain ⟨hd, hname⟩ := List.mem_filter.1 (List.mem_of_getLast? hget)
    obtain ⟨name, later, hdefines, heq⟩ := Definition.defines_of_mem_among hd
    have hkey : e.2.name = e.1 := of_decide_eq_true hname
    rw [heq] at hkey ⊢
    exact ⟨name, later, hdefines, hkey.symm, rfl, standsAt_of_defines hdefines⟩
  · intro p hp
    obtain ⟨d, hd, hproblem⟩ := List.mem_flatMap.1 hp
    obtain ⟨name, later, hdefines, rfl⟩ := Definition.defines_of_mem_among hd
    obtain ⟨problem, hmem, rfl⟩ := List.mem_map.1 hproblem
    exact ⟨name, later, hdefines, ⟨problem, hmem, rfl⟩, standsAt_of_defines hdefines⟩

/-- In a text with a comment, an empty line and two definitions of `f`, the problem with the formals of
    the first stands at its name, and the entry at the name of the second. -/
theorem places_point_at_names_redefined :
    let text := "; f\n(defun f (x x)\n x)\n\n (defun\nf (y) y)"
    let d : Definition := ⟨"f", ["y"], ⟨5, 0⟩⟩
    let p : Problem := ⟨"f: Formal param names cannot be duplicates : x", ⟨1, 7⟩⟩
    ("f", d) ∈ (Index.of text).functions.entries ∧ p ∈ (Index.of text).problems ∧
      (∃ name later, Defines (spans text) name later ∧ name.text = "f" ∧
        name.StandsAt text.toList ⟨5, 0⟩) ∧
      ∃ name later, Defines (spans text) name later ∧ name.StandsAt text.toList ⟨1, 7⟩ := by
  intro text d p
  have hd : ("f", d) ∈ (Index.of text).functions.entries := by decide +kernel
  have hp : p ∈ (Index.of text).problems := by decide +kernel
  obtain ⟨name, later, hdefines, hname, -, hplace⟩ := (places_point_at_names text).1 _ hd
  obtain ⟨name', later', hdefines', -, hplace'⟩ := (places_point_at_names text).2 _ hp
  exact ⟨hd, hp, ⟨name, later, hdefines, hname.symm, hplace⟩, name', later', hdefines', hplace'⟩

end MiniLisp.Editor
