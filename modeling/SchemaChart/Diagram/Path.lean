/-
The names of places in a diagram. A place is named by the chain of names from its table down to it, and
identified by the chain joined with dots. A field is named as in its object, with a question mark if it
may be left out; the members of a union are `union.0`, `union.1` and so on, and the element of an array
is `array.0`.
-/
namespace SchemaChart.Diagram

/-- The name of a field wherever it appears. -/
def fieldName (name : String) (optional : Bool) : String := if optional then name ++ "?" else name

/-- The name of the member of a union at a position. -/
def memberName (index : Int) : String := "union." ++ toString index

/-- The name of the element of an array. -/
def elementName : String := "array.0"

/-- A chain of names as one identifier. -/
def joinNames (names : List String) : String := ".".intercalate names

/-- A chain of at least one name; `above` are the names it lies under. -/
structure Path where
  above : List String
  name : String
  deriving DecidableEq, Repr

namespace Path

/-- The path of a table. -/
def root (table : String) : Path := ⟨[], table⟩

/-- All names, from the table down. -/
def names (p : Path) : List String := p.above ++ [p.name]

/-- The identifier. -/
def text (p : Path) : String := joinNames p.names

/-- The path of something directly below. -/
def child (p : Path) (name : String) : Path := ⟨p.names, name⟩

/-- The path with the given names, if there are any. -/
def ofNames? (names : List String) : Option Path :=
  names.getLast?.map fun name => ⟨names.dropLast, name⟩

@[simp] theorem names_root (table : String) : (root table).names = [table] := rfl

@[simp] theorem names_child (p : Path) (name : String) : (p.child name).names = p.names ++ [name] := rfl

end Path

end SchemaChart.Diagram
