import MiniLisp.Text.Blank

/-! # Spans

An editor needs to know where things stand, so a text is cut into segments that together are the
whole text: runs of blanks, comments, single marks and runs of other characters. The marks and the
runs of other characters are spans, with their offsets. -/

namespace MiniLisp.Editor

/-- What the first character of a segment says about it. -/
inductive Segment where
  /-- A run of blanks. -/
  | blank
  /-- A comment, up to the end of its line. -/
  | comment
  /-- A parenthesis or a quote mark. -/
  | mark
  /-- A run of other characters. -/
  | word
  deriving Repr, DecidableEq

namespace Segment

/-- The segment that a character begins. -/
def startedBy (c : Char) : Segment :=
  if Text.isBlank c then .blank
  else if c = ';' then .comment
  else if c = '(' || c = ')' || c = '\x27' then .mark
  else .word

/-- Whether a character belongs to the segment that it follows. -/
def extendedBy : Segment → Char → Bool
  | .blank, c => startedBy c = .blank
  | .comment, c => c ≠ '\n'
  | .mark, _ => false
  | .word, c => startedBy c = .word

/-- Whether a segment is a span. -/
def isSpan : Segment → Bool
  | .blank | .comment => false
  | .mark | .word => true

end Segment

/-- The segments of a text. -/
def segments : List Char → List (Segment × List Char)
  | [] => []
  | c :: cs =>
    let segment := Segment.startedBy c
    (segment, c :: cs.takeWhile segment.extendedBy) :: segments (cs.dropWhile segment.extendedBy)
termination_by cs => cs.length
decreasing_by exact Text.length_dropWhile_lt

/-- No character is lost. -/
theorem flatten_segments (cs : List Char) : ((segments cs).map Prod.snd).flatten = cs := by
  fun_induction segments cs with
  | case1 => rfl
  | case2 c cs segment ih =>
    rw [List.map_cons, List.flatten_cons, ih, List.cons_append, List.takeWhile_append_dropWhile]

/-- A piece of a text, from the offset `start` up to the offset `stop`. -/
structure Span where
  text : String
  start : Nat
  stop : Nat
  deriving Repr, DecidableEq

/-- The spans among segments, the first of which begins at `offset`. -/
def placeSpans (offset : Nat) : List (Segment × List Char) → List Span
  | [] => []
  | (segment, cs) :: rest =>
    let stop := offset + cs.length
    if segment.isSpan then ⟨String.ofList cs, offset, stop⟩ :: placeSpans stop rest
    else placeSpans stop rest

/-- The spans of a text. -/
def spans (text : String) : List Span := placeSpans 0 (segments text.toList)

end MiniLisp.Editor
