/-
The table of all nodes of a schema. Every group and every leaf has a row, in the order of the diagram, and the title
counts the tables and the references.
-/
import SchemaChart.Diagram.Walk
import SchemaChart.Text.Grid

namespace SchemaChart.Listing

open Diagram

/-- The row of a node. -/
structure Row where
  table : String
  path : String
  kind : String
  label : String
  references : String
  deriving DecidableEq, Repr

/-- The row of an event of a table; closing a group has none. -/
def row? (table : String) (e : Event) : Option Row :=
  match e.kind with
  | .closeGroup => none
  | _ => some ⟨table, e.node.path, e.node.kind.name, e.node.label, e.node.linkedTable.getD ""⟩

/-- The rows of the drawing of a schema. -/
def rows (s : Schema) (d : Drawing) : List Row :=
  (s.tables.zip d.blocks).flatMap fun (t, events) => events.filterMap (row? t.name)

/-- The title of the drawing of a schema. -/
def title (d : Drawing) : String := s!"Schema: {d.blocks.length} tables, {d.edges.length} references"

/-- The columns. Paths are never broken. -/
def columns : List Text.Grid.Column :=
  [⟨"Table", false⟩, ⟨"Path", true⟩, ⟨"Kind", false⟩, ⟨"Label", false⟩, ⟨"References", false⟩]

def Row.cells (r : Row) : List String := [r.table, r.path, r.kind, r.label, r.references]

/-- The table of the drawing of a schema. -/
def grid (s : Schema) (d : Drawing) : Text.Grid := ⟨title d, columns, (rows s d).map Row.cells⟩

end SchemaChart.Listing
