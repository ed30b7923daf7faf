/-
Schemas as they are declared in JSON, in one of two shapes: an object whose `tables` is a list of
entries with a `tableName` and a `documentType`, or an object with one validator for each table name.
All tables are declared before the first validator is read, so a malformed entry is met before any
malformed validator.
-/
import SchemaChart.Schema.Basic
import SchemaChart.Validator.Reader

namespace SchemaChart

/-- A table as it is declared: its name and the members of its validator. -/
structure Declaration where
  name : String
  validator : List (String × Json)

namespace Declaration

/-- What is wrong with the JSON of a schema. -/
inductive Fault where
  | notObject
  | badEntry (entry : Json)

/-- Why a schema is not read. -/
inductive Error where
  | fault (fault : Fault)
  | refused (refusal : Refusal)

def Fault.message : Fault → String
  | .notObject => "Schema JSON must be an object"
  | .badEntry entry => "Exported table entries need 'tableName' and 'documentType': " ++ entry.display

/-- The declaration with a name and a validator, which must be a text and an object. -/
def make (name validator : Json) : Except Refusal Declaration :=
  match name, validator with
  | .str n, .obj members => .ok ⟨n, members⟩
  | .str _, _ => .error ⟨.declaration, [Refusal.object .documentType .object]⟩
  | _, .obj _ => .error ⟨.declaration, [Refusal.object .name .text]⟩
  | _, _ => .error ⟨.declaration, [Refusal.object .name .text, Refusal.object .documentType .object]⟩

/-- The declaration in an entry of a list of tables. -/
def ofEntry (entry : Json) : Except Error Declaration :=
  match entry.get? "tableName", entry.get? "documentType" with
  | some name, some validator => (make name validator).mapError .refused
  | _, _ => .error (.fault (.badEntry entry))

/-- The declarations of a schema, in order. -/
def readAll : Json → Except Error (List Declaration)
  | .obj members =>
    match members.lookup "tables" with
    | some (.arr entries) => entries.mapM ofEntry
    | _ => members.mapM fun (name, validator) => (make (.str name) validator).mapError .refused
  | _ => .error (.fault .notObject)

/-- The table that a declaration stands for. -/
def table (d : Declaration) : Except Validator.Error Table :=
  (Validator.readType (.obj d.validator)).map fun type => ⟨d.name, type⟩

end Declaration

/-- The schema that declarations stand for. -/
def Schema.ofDeclarations (ds : List Declaration) : Except Validator.Error Schema :=
  (ds.mapM Declaration.table).map fun tables => ⟨tables⟩

end SchemaChart
