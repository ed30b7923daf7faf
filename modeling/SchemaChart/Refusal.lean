/-
Parts that refuse their members. A part is put together from members that must have the right shape;
if some do not, the part is refused with one objection for each, in the order of its members.
-/
namespace SchemaChart

/-- The parts that check their members. -/
inductive Part where
  | declaration
  | table
  | reference
  | primitive
  | literal
  | field
  | union
  | array
  | record
  | node
  | event
  | edge
  | settings
  deriving DecidableEq, Repr

/-- The members that are checked. -/
inductive Member where
  | name
  | documentType
  | tableName
  | kind
  | value
  | fieldType
  | optional
  | members
  | element
  | keyType
  | valueType
  | path
  | displayName
  | label
  | linkedTable
  | source
  | target
  | schemaPath
  | fence
  | logLevel
  deriving DecidableEq, Repr

/-- What a member was expected to be. -/
inductive Expectation where
  | text
  | object
  | list
  | type
  | primitiveKind
  | eventKind
  | nodeKind
  | truth
  /-- A truth value, or a text or number that reads as one. -/
  | readableTruth
  | wholeNumber
  | number
  /-- One of the known log levels; the level given is not. -/
  | logLevel (given : String)
  /-- The value that the member already has. -/
  | unchanged
  deriving DecidableEq, Repr

/-- An objection to a member, or to one item of it. -/
structure Objection where
  member : Member
  index : Option Nat
  expected : Expectation
  deriving DecidableEq, Repr

/-- A part and the objections to its members. -/
structure Refusal where
  part : Part
  objections : List Objection
  deriving DecidableEq, Repr

def Expectation.message : Expectation → String
  | .text => "Input should be a valid string"
  | .object => "Input should be a valid dictionary"
  | .list => "Input should be a valid list"
  | .type => "Input should be a valid dictionary or instance of TypeNode"
  | .primitiveKind => "Input should be 'null', 'number', 'bigint', 'boolean', 'string', 'bytes' or 'any'"
  | .eventKind => "Input should be 'open_group', 'leaf' or 'close_group'"
  | .nodeKind => "Input should be 'group' or 'leaf'"
  | .truth => "Input should be a valid boolean"
  | .readableTruth => "Input should be a valid boolean, unable to interpret input"
  | .wholeNumber => "Input should be a valid integer"
  | .number => "Input should be a valid number"
  | .logLevel given => "Value error, Unknown log level: " ++ given
  | .unchanged => "Instance is frozen"

def Part.word : Part → String
  | .declaration => "table declaration"
  | .table => "table"
  | .reference => "reference"
  | .primitive => "primitive"
  | .literal => "literal"
  | .field => "field"
  | .union => "union"
  | .array => "array"
  | .record => "record"
  | .node => "node"
  | .event => "event"
  | .edge => "edge"
  | .settings => "settings"

def Refusal.message (r : Refusal) : String :=
  "\n".intercalate (s!"refused {r.part.word}" :: r.objections.map fun o => "  " ++ o.expected.message)

namespace Refusal

/-- Refuses `part` if there are objections, and else gives the whole. -/
def check {α : Type} (part : Part) (objections : List Objection) (whole : α) : Except Refusal α :=
  if objections = [] then .ok whole else .error ⟨part, objections⟩

/-- The objection to a whole member. -/
def object (member : Member) (expected : Expectation) : Objection := ⟨member, none, expected⟩

end Refusal

end SchemaChart
