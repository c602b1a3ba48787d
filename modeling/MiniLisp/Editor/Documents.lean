import MiniLisp.Editor.Report

/-! # Open documents

The documents that an editor has open, each with its index, and what is published about them. -/

namespace MiniLisp.Editor

/-- An open document. -/
structure Document where
  text : String
  index : Index

/-- The open documents by their address. -/
abbrev Documents := Table Document

/-- Diagnostics for the document at an address, which replace the earlier ones. -/
structure Publication where
  uri : String
  diagnostics : List Diagnostic

namespace Documents

/-- Sets the text of a document, and publishes its diagnostics. -/
def update (docs : Documents) (uri text : String) : Documents × Publication :=
  let index := Index.of text
  (docs.insert uri ⟨text, index⟩, ⟨uri, index.diagnostics⟩)

/-- A document was opened. -/
def didOpen (docs : Documents) (uri text : String) : Documents × Publication := docs.update uri text

/-- A document was changed. Each change carries the full text, so the last one counts; without one
    the text stays, and is empty if the document was not open. -/
def didChange (docs : Documents) (uri : String) (texts : List String) : Documents × Publication :=
  let text :=
    match texts.getLast? with
    | some text => text
    | none => ((docs.get? uri).map Document.text).getD ""
  docs.update uri text

/-- A document was closed. Its diagnostics are withdrawn. -/
def didClose (docs : Documents) (uri : String) : Documents × Publication :=
  (docs.erase uri, ⟨uri, []⟩)

/-- The description of the word at a place of a document. -/
def hover (docs : Documents) (uri : String) (line column : Int) :
    Except PlaceError (Option String) :=
  match docs.get? uri with
  | none => .ok none
  | some doc => do
    let word ← wordAt doc.text line column
    pure (word.bind doc.index.describe)

/-- The words offered while a document is edited. -/
def completion (docs : Documents) (uri : String) : List Completion :=
  completions ((docs.get? uri).map Document.index)

/-- The outline of a document. -/
def symbols (docs : Documents) (uri : String) : Option (List DocumentSymbol) :=
  (docs.get? uri).map fun doc => doc.index.symbols

end Documents

end MiniLisp.Editor
