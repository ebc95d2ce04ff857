import OperandStack.Toml.Statement

/-! # TOML documents

The statements before the first header belong to the document itself, those after a header to the
table it opens. No name is given twice in one place, and a table's name is a name of the document.
-/

namespace OperandStack.Toml

/-- The entries of a document, and its tables in the order of their headers. -/
structure Document where
  root : List Entry
  tables : List (String × List Entry)

namespace Document

/-- Groups statements under their headers. -/
def ofStatements : List Statement → Document
  | [] => ⟨[], []⟩
  | .blank :: rest => ofStatements rest
  | .entry key value :: rest =>
    let later := ofStatements rest
    { later with root := (key, value) :: later.root }
  | .header table :: rest =>
    let later := ofStatements rest
    ⟨[], (table, later.root) :: later.tables⟩

/-- The document as one table, with its own entries first. -/
def entries (document : Document) : List Entry :=
  document.root ++ document.tables.map fun table => (table.1, .table table.2)

/-- No name is given twice in one place. -/
def Unambiguous (document : Document) : Prop :=
  (document.entries.map Prod.fst).Nodup ∧
    ∀ table ∈ document.tables, (table.2.map Prod.fst).Nodup

instance (document : Document) : Decidable document.Unambiguous :=
  inferInstanceAs (Decidable (_ ∧ _))

/-- Reads a document, or answers `none` for a text that is not one. -/
def read? (text : String) : Option Document :=
  ((statements? text.toList).map ofStatements).filter fun document => document.Unambiguous

end Document

end OperandStack.Toml
