/-
One type at two places. Of the path that leads to a type, a walk uses the last name for the node of the type itself
and the identifier for the front of every identifier below, and nothing else. So the walks of a type at two paths
have the same events and edges, but for that name and that front, or both stop at the same record in it
(`walk_alike`).
-/
import SchemaChart.Proofs.Names
import SchemaChart.Proofs.Nesting

namespace SchemaChart

/-- A label begins with the name of its place. -/
theorem TypeTree.label_eq_append (t : TypeTree) : ∃ rest, ∀ name, t.label name = name ++ rest := by
  cases t with
  | primitive kind => exact ⟨": " ++ kind.name, fun name => String.append_assoc ..⟩
  | literal value =>
    exact ⟨": literal '" ++ (value.text ++ "'"), fun name => by simp only [label, String.append_assoc]⟩
  | reference table => exact ⟨": id '" ++ (table ++ "'"), fun name => by simp only [label, String.append_assoc]⟩
  | object | union | array | record => exact ⟨"", fun name => String.append_empty.symm⟩

namespace Diagram

open TypeTree

/-! ## What a path decides -/

theorem Path.names_ne_nil (p : Path) : p.names ≠ [] := by simp [Path.names]

theorem Path.text_child (p : Path) (name : String) : (p.child name).text = p.text ++ ("." ++ name) := by
  rw [Path.text, Path.names_child, joinNames_append p.names_ne_nil, dotted, dotted, String.append_empty]
  rfl

variable {p q : Path}

/-- Identifiers that begin with those of two paths and go on alike. -/
def SameEnding (p q : Path) (a b : String) : Prop := ∃ rest, a = p.text ++ rest ∧ b = q.text ++ rest

/-- What lies below two paths under one name goes on alike from there. -/
theorem SameEnding.of_child {name a b : String} (h : SameEnding (p.child name) (q.child name) a b) :
    SameEnding p q a b := by
  obtain ⟨rest, rfl, rfl⟩ := h
  refine ⟨"." ++ name ++ rest, ?_, ?_⟩ <;> rw [Path.text_child] <;> simp only [String.append_assoc]

/-- Events of one kind, whose nodes are of one kind and link to the same table. -/
structure Alike (a b : Event) : Prop where
  kind : a.kind = b.kind
  nodeKind : a.node.kind = b.node.kind
  linkedTable : a.node.linkedTable = b.node.linkedTable

/-- Nodes at two paths: each has the identifier and the name of its path, and behind the name the labels are the
same. -/
structure AtPaths (p q : Path) (m n : Node) : Prop where
  path : m.path = p.text ∧ n.path = q.text
  displayName : m.displayName = p.name ∧ n.displayName = q.name
  label : ∃ rest, m.label = p.name ++ rest ∧ n.label = q.name ++ rest

/-- Nodes below two paths: only the fronts of their identifiers differ. -/
structure BelowPaths (p q : Path) (m n : Node) : Prop where
  path : SameEnding p q m.path n.path
  displayName : m.displayName = n.displayName
  label : m.label = n.label

/-- A node at a child lies below the path. -/
theorem AtPaths.below {name : String} {m n : Node} (h : AtPaths (p.child name) (q.child name) m n) :
    BelowPaths p q m n := by
  obtain ⟨⟨hm, hn⟩, ⟨hmd, hnd⟩, rest, hml, hnl⟩ := h
  refine ⟨⟨"." ++ name, ?_, ?_⟩, hmd.trans hnd.symm, hml.trans hnl.symm⟩
  · rw [hm, Path.text_child]
  · rw [hn, Path.text_child]

theorem BelowPaths.of_child {name : String} {m n : Node} (h : BelowPaths (p.child name) (q.child name) m n) :
    BelowPaths p q m n :=
  ⟨h.path.of_child, h.displayName, h.label⟩

/-! ## Two walks of a type -/

/-- Events of which the first and the last are those of the places at two paths, and all others lie below. -/
inductive Rooted (p q : Path) : List Event → List Event → Prop
  | leaf {m n : Node} : AtPaths p q m n → Rooted p q [⟨.leaf, m⟩] [⟨.leaf, n⟩]
  | group {m n : Node} {inner inner' : List Event} : AtPaths p q m n →
      List.Forall₂ (fun a b => BelowPaths p q a.node b.node) inner inner' →
      Rooted p q (groupEvents m inner) (groupEvents n inner')

/-- Edges to one table, from places at two paths or below them. -/
structure MovedEdge (p q : Path) (a b : Edge) : Prop where
  source : SameEnding p q a.source b.source
  target : a.target = b.target

/-- Walks of one type at two paths. -/
structure Moved (p q : Path) (v w : Walk) : Prop where
  alike : List.Forall₂ Alike v.events w.events
  rooted : Rooted p q v.events w.events
  edges : List.Forall₂ (MovedEdge p q) v.edges w.edges

/-- Walks of the same children below two paths. -/
structure MovedBelow (p q : Path) (v w : Walk) : Prop where
  alike : List.Forall₂ Alike v.events w.events
  below : List.Forall₂ (fun a b => BelowPaths p q a.node b.node) v.events w.events
  edges : List.Forall₂ (MovedEdge p q) v.edges w.edges

theorem MovedBelow.append {v w v' w' : Walk} (h : MovedBelow p q v w) (h' : MovedBelow p q v' w') :
    MovedBelow p q (v ++ v') (w ++ w') :=
  ⟨List.rel_append h.alike h'.alike, List.rel_append h.below h'.below, List.rel_append h.edges h'.edges⟩

theorem Rooted.below {name : String} {a b : List Event} (h : Rooted (p.child name) (q.child name) a b) :
    List.Forall₂ (fun a b => BelowPaths p q a.node b.node) a b := by
  cases h with
  | leaf h => exact .cons h.below .nil
  | group h hi =>
    refine .cons h.below (List.rel_append ?_ (.cons h.below .nil))
    exact hi.imp fun a b hab => hab.of_child

theorem Moved.below {name : String} {v w : Walk} (h : Moved (p.child name) (q.child name) v w) :
    MovedBelow p q v w := by
  refine ⟨h.alike, h.rooted.below, ?_⟩
  exact h.edges.imp fun a b hab => ⟨hab.source.of_child, hab.target⟩

theorem atPaths_placeNode (p q : Path) (t : TypeTree) : AtPaths p q (placeNode p.names t) (placeNode q.names t) := by
  obtain ⟨rest, hrest⟩ := t.label_eq_append
  refine ⟨⟨rfl, rfl⟩, ?_, rest, ?_, ?_⟩
  · simp [placeNode]
  · simp [placeNode, hrest]
  · simp [placeNode, hrest]

theorem alike_placeNode (kind : EventKind) (p q : Path) (t : TypeTree) :
    Alike ⟨kind, placeNode p.names t⟩ ⟨kind, placeNode q.names t⟩ :=
  ⟨rfl, rfl, rfl⟩

/-- The edges of a place are those from its own identifier. -/
theorem movedEdge_placeEdges (p q : Path) (t : TypeTree) :
    List.Forall₂ (MovedEdge p q) (placeEdges p.names t) (placeEdges q.names t) := by
  unfold placeEdges
  rw [List.forall₂_map_left_iff, List.forall₂_map_right_iff, List.forall₂_same]
  intro table _
  exact ⟨⟨"", String.append_empty.symm, String.append_empty.symm⟩, rfl⟩

/-- The walks of a type at two paths differ in what the paths decide, and in nothing else. -/
theorem moved_walk (t : TypeTree) : ∀ {p q : Path} {v w : Walk}, walk p t = .ok v → walk q t = .ok w → Moved p q v w := by
  refine mutual_induction (P := fun t => ∀ {p q v w}, walk p t = .ok v → walk q t = .ok w → Moved p q v w)
    (Q := fun cs => ∀ {p q v w}, walkChildren p cs = .ok v → walkChildren q cs = .ok w → MovedBelow p q v w) ?_ ?_ ?_ t
  · intro t ih p q v w hv hw
    rcases walk_cases hv with ⟨hg, hr, rfl⟩ | ⟨hg, inner, hi, rfl⟩
    · rw [walk_leaf hg hr] at hw
      cases hw
      rw [entry, entry, hg]
      exact ⟨.cons (alike_placeNode ..) .nil, .leaf (atPaths_placeNode p q t), movedEdge_placeEdges p q t⟩
    · rcases walk_cases hw with ⟨hn, -, -⟩ | ⟨-, inner', hi', rfl⟩
      · rw [hg] at hn
        cases hn
      · have hinner := ih hi hi'
        rw [entry, entry, hg]
        refine ⟨?_, .group (atPaths_placeNode p q t) hinner.below, hinner.edges⟩
        exact .cons (alike_placeNode ..) (List.rel_append hinner.alike (.cons (alike_placeNode ..) .nil))
  · intro p q v w hv hw
    cases hv
    cases hw
    exact ⟨.nil, .nil, .nil⟩
  · intro c rest hc hrest p q v w hv hw
    obtain ⟨first, others, hf, ho, rfl⟩ := walkChildren_cons hv
    obtain ⟨first', others', hf', ho', rfl⟩ := walkChildren_cons hw
    exact (hc hf hf').below.append (hrest ho ho')

/-! ## Two faults of a type -/

/-- What stops the walk of a type is a record in it, at the same distance from the type wherever that stands. -/
theorem walk_eq_error_iff {t : TypeTree} {e : Error} : walk p t = .error e ↔
    ∃ x, t.firstRecord? = some x ∧ e = .unsupportedField (p.text ++ dotted x.chain) "record" := by
  rw [← fault?_eq_some_iff, fault?_walk, Option.map_eq_some_iff]
  have hfault : ∀ x : Place, recordFault p x = .unsupportedField (p.text ++ dotted x.chain) "record" := by
    intro x
    rw [recordFault, joinNames_append p.names_ne_nil]
    rfl
  simp only [hfault, eq_comm]

/-- A type is walked at one path exactly when it is at another. Its walks then differ in what the paths decide and in
nothing else; and if it is not walked at either, the same record in it is held against it, each time by the
identifier that it has there. -/
theorem walk_alike (t : TypeTree) (p q : Path) :
    ((∃ v, walk p t = .ok v) ↔ ∃ w, walk q t = .ok w) ∧
      (∀ v w, walk p t = .ok v → walk q t = .ok w → Moved p q v w) ∧
      ∀ e e', walk p t = .error e → walk q t = .error e' →
        ∃ rest kind, e = .unsupportedField (p.text ++ rest) kind ∧ e' = .unsupportedField (q.text ++ rest) kind := by
  refine ⟨walk_ok_iff.trans walk_ok_iff.symm, fun v w => moved_walk t, fun e e' he he' => ?_⟩
  obtain ⟨x, hx, rfl⟩ := walk_eq_error_iff.1 he
  obtain ⟨y, hy, rfl⟩ := walk_eq_error_iff.1 he'
  obtain rfl : x = y := Option.some.inj (hx.symm.trans hy)
  exact ⟨dotted x.chain, "record", rfl, rfl⟩

end Diagram

end SchemaChart
