/-
References counted. Counting the references in a type goes down the same way as walking it, so where the walk is not
stopped by a record it has as many edges as there are references, and the type has as many places that are references
(`references_walk`). Along the tables of a schema the numbers add up to that of all edges drawn
(`references_eq_length_edges`).
-/
import SchemaChart.Proofs.Edges
import SchemaChart.Schema.Basic
import Mathlib.Algebra.GroupWithZero.Nat

namespace SchemaChart

namespace TypeTree

/-! ## References of children -/

/-- The number of references in children. -/
def referencesOfChildren (cs : List Child) : Nat := (cs.map fun c => c.type.references).sum

theorem referencesOfFields_eq : ∀ fields, referencesOfFields fields = referencesOfChildren (fields.map fieldChild)
  | [] => rfl
  | ⟨name, optional, type⟩ :: rest => by
    rw [referencesOfFields, referencesOfFields_eq rest]
    rfl

theorem referencesOfMembers_eq : ∀ (index : Nat) (members : List TypeTree), referencesOfMembers members =
    referencesOfChildren (members.mapIdx fun i t => memberChild (index + i) t)
  | _, [] => rfl
  | index, type :: rest => by
    simp only [referencesOfMembers, referencesOfMembers_eq (index + 1) rest, List.mapIdx_cons,
      Nat.add_right_comm index 1]
    rfl

/-- A type that can have children holds the references that they hold. -/
theorem references_group {t : TypeTree} (h : t.isGroup = true) : t.references = referencesOfChildren t.children := by
  cases t with
  | object fields => rw [references, referencesOfFields_eq]; rfl
  | union members => rw [references, referencesOfMembers_eq 0]; simp only [children, Nat.zero_add]
  | array element => rfl
  | primitive | literal | reference | record => cases h

end TypeTree

namespace Diagram

open TypeTree

/-! ## Edges of references -/

/-- At a place without children begins an edge for each reference in it. -/
theorem references_leaf {t : TypeTree} (hg : t.isGroup = false) (hr : t.isRecord = false) (names : List String) :
    t.references = (placeEdges names t).length := by
  cases t with
  | primitive | literal | reference => rfl
  | object | union | array => cases hg
  | record => cases hr

theorem length_placeEdges (names : List String) (t : TypeTree) :
    (placeEdges names t).length = if t.isReference then 1 else 0 := by
  cases t <;> rfl

theorem length_flatMap_placeEdges (names : Place → List String) (xs : List Place) :
    (xs.flatMap fun x => placeEdges (names x) x.type).length = xs.countP fun x => x.type.isReference := by
  induction xs with
  | nil => rfl
  | cons x xs ih =>
    rw [List.flatMap_cons, List.length_append, length_placeEdges, ih, List.countP_cons, Nat.add_comm]

/-- The references in a type are counted along its walk: a leaf has an edge if it is one, and a group has the edges of
its children, one child after the other. -/
theorem references_walk {p : Path} {t : TypeTree} {w : Walk} (h : walk p t = .ok w) :
    t.references = w.edges.length := by
  refine walk_induction (P := fun _ t w => t.references = w.edges.length)
    (Q := fun _ cs w => referencesOfChildren cs = w.edges.length) ?_ ?_ ?_ ?_ p t w h
  · intro p t hg hr
    exact references_leaf hg hr p.names
  · intro p t inner hg hi
    rw [references_group hg, hi]
  · intro p
    rfl
  · intro p x rest first others hf ho
    rw [Walk.edges_append, List.length_append, ← hf, ← ho]
    rfl

/-- The walk of a type has an edge for each place that is a reference. -/
theorem length_edges_walk {p : Path} {t : TypeTree} {w : Walk} (h : walk p t = .ok w) :
    w.edges.length = t.places.countP fun x => x.type.isReference := by
  rw [(walk_places h).2, length_flatMap_placeEdges]

/-- A type that is walked has no records, and it has as many references as its walk has edges and as it has places that
are references. The references in the tables of a schema together are as many as the edges of its drawing. -/
theorem references_eq_length_edges :
    (∀ p t w, walk p t = .ok w → t.RecordFree ∧ t.references = w.edges.length ∧
      t.references = t.places.countP fun x => x.type.isReference) ∧
    ∀ s d, draw s = .ok d → (s.tables.map fun t => t.type.references).sum = d.edges.length := by
  refine ⟨fun p t w h => ⟨walk_ok_iff.1 ⟨w, h⟩, references_walk h, ?_⟩, fun s d h => ?_⟩
  · rw [references_walk h, length_edges_walk h]
  · obtain ⟨ws, hws, rfl⟩ := draw_walks h
    have hcounts : (s.tables.map fun t => t.type.references) = ws.map fun w => w.edges.length := by
      rw [← List.forall₂_eq_eq_eq, List.forall₂_map_left_iff, List.forall₂_map_right_iff]
      exact hws.imp fun t w hw => references_walk hw.2
    rw [hcounts, List.length_flatten, List.map_map]
    rfl

/-- Two tables with several references to one table, in a union, in an array and in a field that may be left out. -/
theorem references_eq_length_edges_repeated :
    let t : TypeTree := .object
      [⟨"a", true, .array (.reference "u")⟩, ⟨"b", false, .union [.reference "u", .reference "u"]⟩]
    let s : Schema := ⟨[⟨"t", t⟩, ⟨"u", .union [.reference "t", .primitive .string]⟩]⟩
    (∃ w, walk (.root "t") t = .ok w ∧ w.edges.length = 3 ∧ t.references = 3 ∧
      t.places.countP (fun x => x.type.isReference) = 3) ∧
      ∃ d, draw s = .ok d ∧ d.edges.length = 4 := by
  intro t s
  obtain ⟨hwalk, hdraw⟩ := references_eq_length_edges
  obtain ⟨-, hedges, hplaces⟩ := hwalk (.root "t") t _ rfl
  exact ⟨⟨_, rfl, hedges.symm, rfl, hplaces.symm⟩, _, rfl, (hdraw s _ rfl).symm⟩

end Diagram

end SchemaChart
