/-
Nodes, events and edges put together from members that may not fit.
-/
import SchemaChart.Json.Basic
import SchemaChart.Diagram.Event

namespace SchemaChart.Diagram.Assembly

open Refusal

def textMember (member : Member) : Json → Except (List Objection) String
  | .str s => .ok s
  | _ => .error [object member .text]

def nodeKind : Json → Except (List Objection) NodeKind
  | .str "group" => .ok .group
  | .str "leaf" => .ok .leaf
  | _ => .error [object .kind .nodeKind]

def eventKind : Json → Except (List Objection) EventKind
  | .str "open_group" => .ok .openGroup
  | .str "leaf" => .ok .leaf
  | .str "close_group" => .ok .closeGroup
  | _ => .error [object .kind .eventKind]

/-- The table that a node links to, or none for null. -/
def linkedTable : Json → Except (List Objection) (Option String)
  | .null => .ok none
  | .str s => .ok (some s)
  | _ => .error [object .linkedTable .text]

/-- The objections of a member that does not fit. -/
def objections {α : Type} : Except (List Objection) α → List Objection
  | .ok _ => []
  | .error os => os

def node (path displayName kind label linked : Json) : Except Refusal Node :=
  match textMember .path path, textMember .displayName displayName, nodeKind kind, textMember .label label,
    linkedTable linked with
  | .ok p, .ok d, .ok k, .ok l, .ok t => .ok ⟨p, d, k, l, t⟩
  | p, d, k, l, t =>
    .error ⟨.node, objections p ++ objections d ++ objections k ++ objections l ++ objections t⟩

def event (kind : Json) (node : Node) : Except Refusal Event :=
  match eventKind kind with
  | .ok k => .ok ⟨k, node⟩
  | .error os => .error ⟨.event, os⟩

def edge (source target : Json) : Except Refusal Edge :=
  match textMember .source source, textMember .target target with
  | .ok s, .ok t => .ok ⟨s, t⟩
  | s, t => .error ⟨.edge, objections s ++ objections t⟩

end SchemaChart.Diagram.Assembly
