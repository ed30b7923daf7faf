/-
Schemas from JSON values and from files. Of several defects the first in the order of reading counts:
the file, its encoding, its JSON, the declarations, the validators.
-/
import SchemaChart.Failure
import SchemaChart.Diagram.Flowchart
import SchemaChart.Json.Reader

namespace SchemaChart

/-- The declarations in a JSON value. -/
def Declaration.ofJson (v : Json) : Except Failure (List Declaration) := (readAll v).mapError Failure.ofDeclaration

namespace Schema

/-- The schema that declarations stand for. -/
def build (ds : List Declaration) : Except Failure Schema := (ofDeclarations ds).mapError Failure.ofValidator

/-- The schema that a JSON value declares. -/
def ofJson (v : Json) : Except Failure Schema := do
  let ds ← Declaration.ofJson v
  build ds

/-- The table of the given name. -/
def get (s : Schema) (name : String) : Except Failure Table :=
  match s.find? name with
  | some t => .ok t
  | none => .error (.unknownTable name)

/-- A walk with that of the table of the given name behind it. -/
def accumulate (s : Schema) (w : Diagram.Walk) (name : String) : Except Failure Diagram.Walk := do
  let t ← s.get name
  let next ← (Diagram.walkTable t).mapError .diagram
  pure (w ++ next)

/-- The flowchart of a schema. -/
def chart (s : Schema) : Except Failure String := (Diagram.flowchart s).mapError Failure.diagram

end Schema

/-- The text of a file, with line feeds for all line ends. -/
def FileTree.readText (t : FileTree) (p : FilePath) : Except Failure String :=
  match t.read p with
  | .error e => .error (.file e)
  | .ok octets =>
    match Text.Utf8.decode octets with
    | .error f => .error (.encoding f)
    | .ok text => .ok (String.ofList (Text.unifyNewlines text.toList))

/-- The JSON value in a file. -/
def FileTree.readJson (t : FileTree) (p : FilePath) : Except Failure Json := do
  let text ← t.readText p
  (Json.parse text).mapError (Failure.json p)

/-- The schema in a file. -/
def Schema.load (t : FileTree) (p : FilePath) : Except Failure Schema := do
  let v ← t.readJson p
  Schema.ofJson v

end SchemaChart
