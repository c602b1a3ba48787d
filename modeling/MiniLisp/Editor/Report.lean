import MiniLisp.Editor.Index
import MiniLisp.Editor.Word
import MiniLisp.SpecialForm

/-! # What an editor shows

Diagnostics, descriptions of words, completions and document symbols, all made from the index of a
document. -/

namespace MiniLisp.Editor

/-- A stretch of a line, up to but not including `stop`. -/
structure Range where
  line : Nat
  start : Nat
  stop : Nat
  deriving Repr, DecidableEq

/-- The stretch of `length` characters from a place. -/
def Range.at (place : Text.Position) (length : Nat) : Range :=
  ⟨place.line, place.column, place.column + length⟩

/-- How serious a diagnostic is. -/
inductive Severity where
  | error
  | warning
  deriving Repr, DecidableEq

/-- Something that an editor marks in a text. -/
structure Diagnostic where
  range : Range
  message : String
  severity : Severity
  deriving Repr, DecidableEq

/-- The name under which diagnostics are published. -/
def diagnosticSource : String := "lispreter-ls"

namespace Index

/-- The diagnostic about the text as a whole. Unbalanced parentheses take precedence over the error
    of the reader. -/
def textDiagnostic? (index : Index) : Option Diagnostic :=
  if index.balance ≠ 0 then
    some ⟨Range.at ⟨0, 0⟩ 1, "Unbalanced parentheses detected", .warning⟩
  else
    index.readerError.map fun e => ⟨Range.at ⟨0, 0⟩ 1, e.message, .error⟩

/-- All diagnostics of a document. -/
def diagnostics (index : Index) : List Diagnostic :=
  index.textDiagnostic?.toList ++
    index.problems.map fun p => ⟨Range.at p.place 1, p.message, .error⟩

/-- The description of a function that a document defines. -/
def describeFunction (word : String) (d : Definition) : String :=
  "(" ++ word ++ " " ++ " ".intercalate d.params ++ ") - function (defined at " ++
    toString (d.place.line + 1) ++ ":" ++ toString (d.place.column + 1) ++ ")"

/-- The description of a word: primitives come before special forms, and these before the functions
    of the document. -/
def describe (index : Index) (word : String) : Option String :=
  match Primitive.ofName? word with
  | some p => some p.signature
  | none =>
    match SpecialForm.named? (Text.upper word) with
    | some form => some form.signature
    | none => (index.functions.get? word).map (describeFunction word)

end Index

/-- What kind of thing a completion is. -/
inductive Completion.Kind where
  | keyword
  | function
  deriving Repr, DecidableEq

/-- A word that an editor offers. -/
structure Completion where
  label : String
  kind : Completion.Kind
  detail : Option String
  deriving Repr, DecidableEq

/-- The words that an editor offers: special forms, primitives and the functions of the document, if
    one is open. -/
def completions (index : Option Index) : List Completion :=
  (SpecialForm.all.map fun form => ⟨form.name, .keyword, some form.signature⟩) ++
  (Primitive.all.map fun p => ⟨p.name, .function, some p.signature⟩) ++
  (match index with
    | none => []
    | some index => index.functions.keys.map fun name => ⟨name, .function, none⟩)

/-- A function in the outline of a document. -/
structure DocumentSymbol where
  name : String
  detail : String
  range : Range
  deriving Repr, DecidableEq

/-- The outline of a document. -/
def Index.symbols (index : Index) : List DocumentSymbol :=
  index.functions.entries.map fun e =>
    ⟨e.1, "(" ++ " ".intercalate e.2.params ++ ")", Range.at e.2.place e.1.length⟩

end MiniLisp.Editor
