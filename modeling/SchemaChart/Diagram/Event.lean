/-
A diagram as a stream of events: a group is opened, what lies in it follows, and it is closed; what has
no parts is a leaf. Beside the stream run the edges from references to the tables they name.
-/
import SchemaChart.Refusal

namespace SchemaChart.Diagram

/-- Whether a node can hold others. -/
inductive NodeKind where
  | group
  | leaf
  deriving DecidableEq, Repr

inductive EventKind where
  | openGroup
  | leaf
  | closeGroup
  deriving DecidableEq, Repr

def NodeKind.name : NodeKind → String
  | .group => "group"
  | .leaf => "leaf"

def EventKind.name : EventKind → String
  | .openGroup => "open_group"
  | .leaf => "leaf"
  | .closeGroup => "close_group"

/-- A node of a diagram. -/
structure Node where
  /-- The identifier of its place. -/
  path : String
  /-- Its own name. -/
  displayName : String
  kind : NodeKind
  /-- The text shown. -/
  label : String
  /-- The table that a reference names. -/
  linkedTable : Option String
  deriving DecidableEq, Repr

structure Event where
  kind : EventKind
  node : Node
  deriving DecidableEq, Repr

/-- A reference: the identifier of its place and the table that it names. -/
structure Edge where
  source : String
  target : String
  deriving DecidableEq, Repr

/-- Events and edges, each in order. -/
structure Walk where
  events : List Event
  edges : List Edge
  deriving DecidableEq, Repr

namespace Walk

/-- Nothing. -/
def empty : Walk := ⟨[], []⟩

/-- One walk after the other. -/
def append (a b : Walk) : Walk := ⟨a.events ++ b.events, a.edges ++ b.edges⟩

instance : Append Walk := ⟨append⟩

@[simp] theorem events_append (a b : Walk) : (a ++ b).events = a.events ++ b.events := rfl

@[simp] theorem edges_append (a b : Walk) : (a ++ b).edges = a.edges ++ b.edges := rfl

theorem append_assoc (a b c : Walk) : a ++ b ++ c = a ++ (b ++ c) := by
  cases a; cases b; cases c
  simp only [HAppend.hAppend, Append.append, append]
  simp

@[simp] theorem empty_append (a : Walk) : empty ++ a = a := rfl

@[simp] theorem append_empty (a : Walk) : a ++ empty = a := by
  cases a
  simp only [HAppend.hAppend, Append.append, append, empty]
  simp

end Walk

end SchemaChart.Diagram
