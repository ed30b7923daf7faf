/-
Walking types and tables. Every place of a type gives a leaf, or a group around the walks of its parts,
in order. A record has no fixed places: it stops the walk with the identifier of its place. All tables
are walked before anything is drawn, in the order of their declaration, and the first defect is reported.
-/
import SchemaChart.Schema.Basic
import SchemaChart.Schema.Literal
import SchemaChart.Diagram.Path
import SchemaChart.Diagram.Event

namespace SchemaChart.Diagram

/-- Why there is no diagram. -/
inductive Error where
  | emptyPath
  | unsupportedField (path kind : String)
  | unsupportedRoot (table kind : String)
  | duplicateTable (name : String)
  deriving DecidableEq, Repr

def Error.message : Error → String
  | .emptyPath => "A graph walker needs a non-empty path"
  | .unsupportedField path kind =>
    s!"Field '{path}' has unsupported type '{kind}': dynamic keys cannot be represented as static paths"
  | .unsupportedRoot table kind =>
    s!"Table '{table}' has unsupported document type '{kind}'. " ++
      "Only object and union table definition types are supported"
  | .duplicateTable name => s!"Duplicate table name: '{name}'"

/-! ## Types -/

/-- The group at a path. -/
def groupNode (p : Path) : Node := ⟨p.text, p.name, .group, p.name, none⟩

/-- The leaf at a path, shown as its name and `what`. -/
def leafNode (p : Path) (what : String) (linkedTable : Option String) : Node :=
  ⟨p.text, p.name, .leaf, p.name ++ ": " ++ what, linkedTable⟩

/-- The walk of a place without parts. -/
def leafWalk (p : Path) (what : String) : Walk := ⟨[⟨.leaf, leafNode p what none⟩], []⟩

/-- The walk of a reference: a leaf and an edge to its table. -/
def referenceWalk (p : Path) (table : String) : Walk :=
  ⟨[⟨.leaf, leafNode p s!"id '{table}'" (some table)⟩], [⟨p.text, table⟩]⟩

/-- The group at a path around the walk of its parts. -/
def groupWalk (p : Path) (inner : Walk) : Walk :=
  ⟨⟨.openGroup, groupNode p⟩ :: inner.events ++ [⟨.closeGroup, groupNode p⟩], inner.edges⟩

mutual

/-- The walk of a type at a path. -/
def walk (p : Path) : TypeTree → Except Error Walk
  | .primitive kind => .ok (leafWalk p kind.name)
  | .literal value => .ok (leafWalk p s!"literal '{value.text}'")
  | .reference table => .ok (referenceWalk p table)
  | .object fields => (walkFields p fields).map (groupWalk p)
  | .union members => (walkMembers p 0 members).map (groupWalk p)
  | .array element => (walk (p.child elementName) element).map (groupWalk p)
  | .record key value => .error (.unsupportedField p.text (TypeTree.record key value).kindName)

/-- The walks of fields below a path, one after the other. -/
def walkFields (p : Path) : List (Field TypeTree) → Except Error Walk
  | [] => .ok .empty
  | ⟨name, optional, type⟩ :: rest => do
    let first ← walk (p.child (fieldName name optional)) type
    let others ← walkFields p rest
    pure (first ++ others)

/-- The walks of the members of a union below a path, the first of them at position `index`. -/
def walkMembers (p : Path) (index : Nat) : List TypeTree → Except Error Walk
  | [] => .ok .empty
  | type :: rest => do
    let first ← walk (p.child (memberName index)) type
    let others ← walkMembers p (index + 1) rest
    pure (first ++ others)

end

/-- The walk of a type below the given names. -/
def walkAt (names : List String) (type : TypeTree) : Except Error Walk :=
  match Path.ofNames? names with
  | some p => walk p type
  | none => .error .emptyPath

/-! ## Tables -/

/-- The walk of a table. Its type must be an object or a union; a record is reported as a field. -/
def walkTable (t : Table) : Except Error Walk :=
  match t.type with
  | .object _ => walk (.root t.name) t.type
  | .union _ => walk (.root t.name) t.type
  | .record _ _ => .error (.unsupportedField t.name t.type.kindName)
  | _ => .error (.unsupportedRoot t.name t.type.kindName)

/-- The events of each table, and the edges of all of them. -/
structure Drawing where
  blocks : List (List Event)
  edges : List Edge
  deriving DecidableEq, Repr

/-- The drawing of tables, none of which may bear one of the names `seen` or the name of another. -/
def drawTables (seen : List String) : List Table → Except Error Drawing
  | [] => .ok ⟨[], []⟩
  | t :: rest =>
    if t.name ∈ seen then .error (.duplicateTable t.name)
    else do
      let first ← walkTable t
      let others ← drawTables (t.name :: seen) rest
      pure ⟨first.events :: others.blocks, first.edges ++ others.edges⟩

/-- The drawing of a schema. -/
def draw (s : Schema) : Except Error Drawing := drawTables [] s.tables

end SchemaChart.Diagram
