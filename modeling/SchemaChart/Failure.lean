/-
Everything that can stop the program, by cause, and the text shown for it.
-/
import SchemaChart.Files.Tree
import SchemaChart.Text.Utf8
import SchemaChart.Json.Fault
import SchemaChart.Schema.Declaration
import SchemaChart.Diagram.Walk

namespace SchemaChart

/-- Why there is no result. -/
inductive Failure where
  | file (error : FileTree.Error)
  | encoding (fault : Text.Utf8.Fault)
  | json (path : FilePath) (fault : Json.Fault)
  | declaration (fault : Declaration.Fault)
  | validator (fault : Validator.Fault)
  | diagram (error : Diagram.Error)
  | refused (refusal : Refusal)
  | unknownTable (name : String)
  | noSchemaFile

namespace Failure

def ofDeclaration : Declaration.Error → Failure
  | .fault f => .declaration f
  | .refused r => .refused r

def ofValidator : Validator.Error → Failure
  | .fault f => .validator f
  | .refused r => .refused r

/-- The text shown for a failure. A number too long to be read is named without its file. -/
def message : Failure → String
  | .file e => e.message
  | .encoding f => f.message
  | .json path f =>
    match f.problem with
    | .tooManyDigits _ => f.problem.message
    | _ => path.text ++ " is not valid JSON: " ++ f.message
  | .declaration f => f.message
  | .validator f => f.message
  | .diagram e => e.message
  | .refused r => r.message
  | .unknownTable name => Text.quoted name
  | .noSchemaFile => "No schema file given. Pass SCHEMA_FILE or set SCHEMA_MERMAID_SCHEMA_PATH."

end Failure

end SchemaChart
