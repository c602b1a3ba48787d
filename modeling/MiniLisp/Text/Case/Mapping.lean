/-! # Case mappings

A case mapping sends a character to one or more characters. Most images are at a fixed distance
from their source, and such sources come in runs of neighbours or of every second code point; the
few images of several characters are listed one by one. -/

namespace MiniLisp.Text

/-- Sources `first`, `first + step`, … up to `last`, each with its image `offset` above it. -/
structure CaseRun where
  first : Nat
  last : Nat
  step : Nat
  offset : Int
  deriving Repr, DecidableEq

/-- A case mapping: the images of several characters, and the runs of the others. Both lists ascend.
    A character that is in neither is its own image. -/
structure CaseMapping where
  expansions : List (Nat × List Nat)
  runs : List CaseRun

namespace CaseMapping

/-- The listed image of several characters, searched in ascending order. -/
def expansion? : List (Nat × List Nat) → Nat → Option (List Nat)
  | [], _ => none
  | (source, image) :: rest, n =>
    if n < source then none else if n = source then some image else expansion? rest n

/-- The distance to the image, searched through the runs in ascending order. -/
def offset? : List CaseRun → Nat → Option Int
  | [], _ => none
  | run :: rest, n =>
    if n < run.first then none
    else if n ≤ run.last ∧ (n - run.first) % run.step = 0 then some run.offset
    else offset? rest n

/-- The image of a character. -/
def image (m : CaseMapping) (c : Char) : List Char :=
  match expansion? m.expansions c.toNat with
  | some ns => ns.map Char.ofNat
  | none =>
    match offset? m.runs c.toNat with
    | some d => [Char.ofNat (c.toNat + d).toNat]
    | none => [c]

/-- The image of a text, character by character. -/
def text (m : CaseMapping) (s : String) : String := String.ofList (s.toList.flatMap m.image)

end CaseMapping

end MiniLisp.Text
