/-
Types of documents, tables and schemas. A type is a primitive, a single literal value, a reference to the documents of a
table, or an object, a union, an array or a record of types. It has no name of its own; its place in the type around it
names it. A schema lists its tables in the order of their declaration; a name is looked up from the front, so of several
tables with one name the first is found.
-/
import SchemaChart.Decimal.Double

namespace SchemaChart

/-! ## Types -/

/-- The primitive types. -/
inductive Primitive where
  | null
  | number
  | bigint
  | boolean
  | string
  | bytes
  | any
  deriving DecidableEq, Repr

/-- Every primitive type, in the order in which they are listed in messages. -/
def Primitive.all : List Primitive := [.null, .number, .bigint, .boolean, .string, .bytes, .any]

def Primitive.name : Primitive → String
  | .null => "null"
  | .number => "number"
  | .bigint => "bigint"
  | .boolean => "boolean"
  | .string => "string"
  | .bytes => "bytes"
  | .any => "any"

/-- The primitive type of the given name. -/
def Primitive.ofName? (name : String) : Option Primitive := Primitive.all.find? (·.name == name)

theorem Primitive.ofName?_name (k : Primitive) : Primitive.ofName? k.name = some k := by
  cases k <;> decide

/-- A literal value. A whole number is not the double of the same value. -/
inductive Literal where
  | bool (b : Bool)
  | int (n : Int)
  | real (x : Double)
  | str (s : String)
  deriving DecidableEq, Repr

/-- A named slot of an object. -/
structure Field (α : Type) where
  name : String
  optional : Bool
  type : α
  deriving Repr

/-- A type of documents, with the types it is made of. -/
inductive TypeTree where
  | primitive (kind : Primitive)
  | literal (value : Literal)
  | reference (table : String)
  | object (fields : List (Field TypeTree))
  | union (members : List TypeTree)
  | array (element : TypeTree)
  | record (key value : TypeTree)
  deriving Repr, Inhabited

/-- The word for a type in messages: the primitive itself, or the way the type is put together. -/
def TypeTree.kindName : TypeTree → String
  | .primitive k => k.name
  | .literal _ => "literal"
  | .reference _ => "id"
  | .object _ => "object"
  | .union _ => "union"
  | .array _ => "array"
  | .record _ _ => "record"

/-! ## References

Every place counts, also several to one table; of a record only the values count, since its keys are never documents. -/

namespace TypeTree

mutual

/-- The number of references in a type. -/
def references : TypeTree → Nat
  | .primitive _ => 0
  | .literal _ => 0
  | .reference _ => 1
  | .object fields => referencesOfFields fields
  | .union members => referencesOfMembers members
  | .array element => references element
  | .record _ value => references value

def referencesOfFields : List (Field TypeTree) → Nat
  | [] => 0
  | ⟨_, _, type⟩ :: rest => references type + referencesOfFields rest

def referencesOfMembers : List TypeTree → Nat
  | [] => 0
  | type :: rest => references type + referencesOfMembers rest

end

end TypeTree

/-! ## Tables -/

/-- A table: its name and the type of its documents. -/
structure Table where
  name : String
  type : TypeTree
  deriving Repr

/-- Tables in the order of their declaration. -/
structure Schema where
  tables : List Table
  deriving Repr

namespace Schema

/-- The names of the tables, in order. -/
def names (s : Schema) : List String := s.tables.map (·.name)

/-- The first table of the given name. -/
def find? (s : Schema) (name : String) : Option Table := s.tables.find? (·.name == name)

/-- The schema with one more table at the end. -/
def add (s : Schema) (t : Table) : Schema := ⟨s.tables ++ [t]⟩

end Schema

end SchemaChart
