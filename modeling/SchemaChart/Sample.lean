/-
A small schema of a chat, put together by hand, and what can be said of it: its flowchart and the number
of references of each table.
-/
import SchemaChart.Schema.Basic
import SchemaChart.Diagram.Flowchart

namespace SchemaChart.Sample

def required (name : String) (type : TypeTree) : Field TypeTree := ⟨name, false, type⟩

def optional (name : String) (type : TypeTree) : Field TypeTree := ⟨name, true, type⟩

/-- Messages with an author and attachments, users with a role, and files. -/
def chat : Schema where
  tables :=
    [⟨"messages",
        .object
          [required "authorId" (.reference "users"), required "body" (.primitive .string),
            optional "attachments" (.array (.reference "files"))]⟩,
      ⟨"users",
        .object
          [required "name" (.primitive .string),
            required "role" (.union [.literal (.str "admin"), .literal (.str "member")])]⟩,
      ⟨"files", .object [required "storageId" (.primitive .string)]⟩]

def rule : String := String.ofList (List.replicate 70 '-')

/-- The line that counts the references of a table. -/
def countLine (t : Table) : String := s!"  {t.name}: {t.type.references}"

/-- The lines said of the sample. -/
def lines (flowchart : String) : List String :=
  ["1. Mermaid flowchart:", rule, flowchart, "", "2. References per table:", rule] ++ chat.tables.map countLine

/-- All that is said of the sample. -/
def report : Except Diagram.Error String :=
  (Diagram.flowchart chat).map fun chart => "".intercalate ((lines chart).map (· ++ "\n"))

end SchemaChart.Sample
