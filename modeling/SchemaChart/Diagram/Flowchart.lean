/-
Flowchart text. Every event and every edge is a line; a line is indented by two spaces for each
declaration or group that is open around it. Whether a line opens or closes a level is read off its
text, and blank lines are left out.
-/
import SchemaChart.Diagram.Walk
import SchemaChart.Text.Basic

namespace SchemaChart.Diagram

/-! ## Lines -/

/-- The first line of a flowchart. -/
def declarationLine : String := "flowchart LR"

/-- The line that closes a group. -/
def endLine : String := "end"

/-- The line of an event, not indented. -/
def Event.line (e : Event) : String :=
  match e.kind with
  | .openGroup => "subgraph " ++ e.node.path ++ "[" ++ e.node.label ++ "]"
  | .leaf => e.node.path ++ "[" ++ e.node.label ++ "]"
  | .closeGroup => endLine

/-- The line of an edge. -/
def Edge.line (e : Edge) : String := e.source ++ "-->" ++ e.target

/-! ## Indentation -/

/-- The words that open a level at the beginning of a line. -/
def openers : List String := ["subgraph ", "flowchart "]

/-- Whether the lines after this one lie one level deeper. -/
def opensLevel (line : String) : Bool := openers.any fun w => w.toList.isPrefixOf line.toList

/-- Two spaces for each level; none below the first level. -/
def indentation (depth : Int) : String := String.ofList (List.replicate (2 * depth.toNat) ' ')

/-- The lines that are not blank, indented from the given depth on. -/
def indentFrom (depth : Int) : List String → List String
  | [] => []
  | line :: rest =>
    if Text.isBlankText line then indentFrom depth rest
    else
      let here := if line = endLine then depth - 1 else depth
      (indentation here ++ line) :: indentFrom (if opensLevel line then here + 1 else here) rest

/-- The lines that are not blank, indented. -/
def indentLines (lines : List String) : List String := indentFrom 0 lines

/-! ## The text -/

/-- The lines of a drawing, not indented: all blocks, then all edges. -/
def Drawing.lines (d : Drawing) : List String :=
  declarationLine :: d.blocks.flatten.map Event.line ++ d.edges.map Edge.line

/-- The flowchart of a drawing. -/
def Drawing.flowchart (d : Drawing) : String := "\n".intercalate (indentLines d.lines)

/-- The flowchart of a schema. -/
def flowchart (s : Schema) : Except Error String := (draw s).map Drawing.flowchart

/-- A flowchart as a block of a Markdown document. -/
def fence (text : String) : String := "\x60\x60\x60mermaid\n" ++ text ++ "\n\x60\x60\x60"

end SchemaChart.Diagram
