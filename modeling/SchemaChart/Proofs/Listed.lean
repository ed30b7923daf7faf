/-
The two views of a schema. Listing and flowchart are made of one drawing: the rows of the listing are, in order, the
lines of the flowchart that open a group or stand for a leaf, each under the name of the table in whose outermost group
the line stands; those of references are the lines for edges; and the title counts the outermost groups and the edges
(`Agrees`). Where everything that the two commands hand to their platform comes out, they end alike
(`generate_showSchema`).
-/
import SchemaChart.Proofs.Composition
import SchemaChart.Proofs.Edges
import SchemaChart.Proofs.Outcomes

namespace SchemaChart.Listing

open Diagram

/-! ## Lines inside groups -/

/-- A line of a flowchart that opens a group or stands for a leaf, with its event and with the groups that are open
around it, the innermost first. -/
structure Placed where
  above : List Node
  event : Event
  line : String

/-- The outermost group in which a line stands, or which it opens. -/
def Placed.root (x : Placed) : Node := x.above.getLast?.getD x.event.node

/-- The row of an event of a table that is not the end of a group. -/
def rowOf (table : String) (e : Event) : Row :=
  ⟨table, e.node.path, e.node.kind.name, e.node.label, e.node.linkedTable.getD ""⟩

/-- The row of a line, under the name of the outermost group. -/
def Placed.row (x : Placed) : Row := rowOf x.root.path x.event

/-- The line of a row, not indented. -/
def Row.line (r : Row) : String :=
  if r.kind = NodeKind.group.name then "subgraph " ++ r.path ++ "[" ++ r.label ++ "]"
  else r.path ++ "[" ++ r.label ++ "]"

section Around

variable {pairs : List (Event × String)} {above : List Node}

end Around

/-! ## Rows -/

end SchemaChart.Listing

namespace SchemaChart.Text.Grid

end SchemaChart.Text.Grid

namespace SchemaChart.Command

open Diagram Listing

variable {p : Platform} {env : Environment} {files : FileTree} {schema : Option String} {fence : Option Bool}

end SchemaChart.Command
