import Latchkey.Toml.Parser

namespace Latchkey.Toml

/-- A document as far as it is read: the outermost table, and the key of the table that assignments
go into. -/
structure Document where
  entries : Entries
  here : Key

namespace Document

/-- Nothing read yet: assignments go into the outermost table. -/
def empty : Document := ⟨[], []⟩

/-- One statement more. -/
def add (d : Document) : Statement → Option Document
  | .header key =>
    (changeAt (beginTable (key.getLastD "")) key.dropLast d.entries).map (⟨·, key⟩)
  | .item key =>
    (changeAt (beginItem (key.getLastD "")) key.dropLast d.entries).map (⟨·, key⟩)
  | .assign key v =>
    (changeAt (fun entries => assignDotted entries key v) d.here d.entries).map (⟨·, d.here⟩)

end Document

/-- The outermost table of a document. -/
def parse? (document : List Char) : Option Entries :=
  (statements? document).bind fun ss =>
    (ss.foldlM Document.add Document.empty).map Document.entries

end Latchkey.Toml
