/-
Types and tables put together from members that may not fit. A part of a type is given as `none` where
something else stands in its place. Each function lists every member that does not fit.
-/
import SchemaChart.Schema.Basic
import SchemaChart.Schema.Literal
import SchemaChart.Refusal
import SchemaChart.Text.Basic

namespace SchemaChart.Assembly

open Refusal

/-! ## Members -/

/-- The truth value that a whole number reads as, which only zero and one have. Numbers from `least` up
to the greatest of 64 bits are read in vain, and others not at all. -/
def readWhole (least n : Int) : Except Expectation Bool :=
  if n = 0 then .ok false
  else if n = 1 then .ok true
  else if least ≤ n ∧ n ≤ 9223372036854775807 then .error .readableTruth
  else .error .truth

/-- The truth value that a value reads as: truth values, zero and one, and the words for them. Of the
whole numbers of 64 bits with a sign, the least one is not read when it is a double. -/
def readTruth : Json → Except Expectation Bool
  | .bool b => .ok b
  | .int n => readWhole (-9223372036854775808) n
  | .real x =>
    match x.toInt? with
    | some n => readWhole (-9223372036854775807) n
    | none => .error .truth
  | .str s =>
    match Text.truth? s with
    | some b => .ok b
    | none => .error .readableTruth
  | _ => .error .truth

/-- The objection to a member that holds no text. -/
def textObjections (member : Member) : Json → List Objection
  | .str _ => []
  | _ => [object member .text]

/-- The objection to a member that holds no type. -/
def typeObjections (member : Member) : Option TypeTree → List Objection
  | some _ => []
  | none => [object member .type]

/-! ## Types -/

def primitive (kind : Json) : Except Refusal TypeTree :=
  match kind with
  | .str name =>
    match Primitive.ofName? name with
    | some k => .ok (.primitive k)
    | none => .error ⟨.primitive, [object .kind .primitiveKind]⟩
  | _ => .error ⟨.primitive, [object .kind .primitiveKind]⟩

/-- A literal of any scalar. Any other value is held against each kind of scalar in turn. -/
def literal (value : Json) : Except Refusal TypeTree :=
  match Literal.ofJson? value with
  | some l => .ok (.literal l)
  | none =>
    .error ⟨.literal,
      [object .value .truth, object .value .wholeNumber, object .value .number, object .value .text]⟩

def reference (table : Json) : Except Refusal TypeTree :=
  match table with
  | .str name => .ok (.reference name)
  | _ => .error ⟨.reference, [object .tableName .text]⟩

/-- A field; one that is not said to be optional is not. -/
def field (name : String) (type : Option TypeTree) (optional : Option Json) :
    Except Refusal (Field TypeTree) :=
  match type, readTruth (optional.getD (.bool false)) with
  | some t, .ok b => .ok ⟨name, b, t⟩
  | none, .ok _ => .error ⟨.field, [object .fieldType .type]⟩
  | some _, .error e => .error ⟨.field, [object .optional e]⟩
  | none, .error e => .error ⟨.field, [object .fieldType .type, object .optional e]⟩

/-- An object. Of fields with one name the last counts, at the place of the first. -/
def objectType (fields : List (Field TypeTree)) : TypeTree :=
  .object ((Dictionary.ofPairs (fields.map fun f => (f.name, f))).map (·.2))

/-- The objections to the members of a union, the first of them at position `index`. -/
def memberObjections (index : Nat) : List (Option TypeTree) → List Objection
  | [] => []
  | some _ :: rest => memberObjections (index + 1) rest
  | none :: rest => ⟨.members, some index, .type⟩ :: memberObjections (index + 1) rest

/-- A union of a list of members. -/
def union (members : Option (List (Option TypeTree))) : Except Refusal TypeTree :=
  match members with
  | some ms => check .union (memberObjections 0 ms) (.union (ms.filterMap id))
  | none => .error ⟨.union, [object .members .list]⟩

def array (element : Option TypeTree) : Except Refusal TypeTree :=
  match element with
  | some t => .ok (.array t)
  | none => .error ⟨.array, [object .element .type]⟩

def record (key value : Option TypeTree) : Except Refusal TypeTree :=
  match key, value with
  | some k, some v => .ok (.record k v)
  | k, v => .error ⟨.record, typeObjections .keyType k ++ typeObjections .valueType v⟩

/-! ## Tables -/

def table (name : Json) (type : Option TypeTree) : Except Refusal Table :=
  match name, type with
  | .str n, some t => .ok ⟨n, t⟩
  | n, t => .error ⟨.table, textObjections .name n ++ typeObjections .documentType t⟩

/-- Giving a table another name is always refused: a table keeps the members it was made with. -/
def renamed (_ : Table) (_ : Json) : Except Refusal Table :=
  .error ⟨.table, [object .name .unchanged]⟩

end SchemaChart.Assembly
