/-
The places of a type: the type itself, and the places of its children, each with the positions and the
final names of the children on the way down. They are listed depth-first, a type before its children and
the children from left to right: every place once (`mem_places`), in the order of the positions
(`pairwise_places`). The walk of a type without records is the listing of its places
(`entries_walk`), and the walk of any other stops at the first record in it (`fault?_walk`).
-/
import SchemaChart.Proofs.Children
import SchemaChart.Proofs.Faults

namespace SchemaChart

namespace TypeTree

/-! ## Places -/

/-- A place in a type: the positions and the names of the children on the way down to it, and its type. -/
structure Place where
  position : List Nat
  chain : List String
  type : TypeTree

/-- The place of the type as a whole. -/
def top (t : TypeTree) : Place := ⟨[], [], t⟩

/-- A place in a child, seen from the type around the child. -/
def Place.under (index : Nat) (name : String) (x : Place) : Place :=
  ⟨index :: x.position, name :: x.chain, x.type⟩

/-- The place at a position, if the type reaches that far. -/
def place? (t : TypeTree) : List Nat → Option Place
  | [] => some t.top
  | index :: rest => t.children[index]?.bind fun c => (c.type.place? rest).map (.under index c.name)

mutual

/-- All places of a type, depth-first. -/
def places : TypeTree → List Place
  | .object fields => top (.object fields) :: placesOfFields 0 fields
  | .union members => top (.union members) :: placesOfMembers 0 members
  | .array element => top (.array element) :: (places element).map (.under 0 "array.0")
  | t => [t.top]

def placesOfFields (index : Nat) : List (Field TypeTree) → List Place
  | [] => []
  | ⟨name, optional, type⟩ :: rest =>
    (places type).map (.under index (if optional then name ++ "?" else name)) ++ placesOfFields (index + 1) rest

def placesOfMembers (index : Nat) : List TypeTree → List Place
  | [] => []
  | type :: rest => (places type).map (.under index ("union." ++ toString index)) ++ placesOfMembers (index + 1) rest

end

/-- The places in children, the first of them at position `index`. -/
def placesOfChildren (index : Nat) : List Child → List Place
  | [] => []
  | c :: rest => c.type.places.map (.under index c.name) ++ placesOfChildren (index + 1) rest

theorem placesOfFields_eq : ∀ index fields,
    placesOfFields index fields = placesOfChildren index (fields.map fieldChild)
  | _, [] => rfl
  | index, ⟨name, optional, type⟩ :: rest => by
    rw [placesOfFields, placesOfFields_eq (index + 1) rest]; rfl

theorem placesOfMembers_eq : ∀ index members,
    placesOfMembers index members = placesOfChildren index (members.mapIdx fun i t => memberChild (index + i) t)
  | _, [] => rfl
  | index, type :: rest => by
    simp only [placesOfMembers, placesOfMembers_eq (index + 1) rest, List.mapIdx_cons, Nat.add_right_comm index 1]
    rfl

theorem places_eq (t : TypeTree) : t.places = t.top :: placesOfChildren 0 t.children := by
  cases t with
  | object fields => rw [places, placesOfFields_eq]; rfl
  | union members => rw [places, placesOfMembers_eq]; simp only [children, Nat.zero_add]
  | array element => rw [places]; exact congrArg _ (List.append_nil _).symm
  | primitive | literal | reference | record => rfl

/-! ## Every place once, in order -/

theorem mem_placesOfChildren {x : Place} : ∀ {index : Nat} {cs : List Child}, x ∈ placesOfChildren index cs ↔
    ∃ (i : Nat) (c : Child) (y : Place), cs[i]? = some c ∧ y ∈ c.type.places ∧ x = y.under (index + i) c.name
  | _, [] => by simp [placesOfChildren]
  | index, c :: rest => by
    rw [placesOfChildren, List.mem_append, List.mem_map, mem_placesOfChildren]
    constructor
    · rintro (⟨y, hy, rfl⟩ | ⟨i, d, y, hd, hy, rfl⟩)
      · exact ⟨0, c, y, rfl, hy, rfl⟩
      · exact ⟨i + 1, d, y, hd, hy, by rw [Nat.add_assoc, Nat.add_comm 1]⟩
    · rintro ⟨_ | i, d, y, hd, hy, rfl⟩
      · cases hd; exact .inl ⟨y, hy, rfl⟩
      · exact .inr ⟨i, d, y, hd, hy, by rw [Nat.add_assoc, Nat.add_comm 1]⟩

/-- What all places have, the type as a whole has, and all places in its children. -/
theorem forall_mem_places {t : TypeTree} {P : Place → Prop} : (∀ x ∈ t.places, P x) ↔
    P t.top ∧ ∀ (i : Nat) (c : Child), t.children[i]? = some c → ∀ y ∈ c.type.places, P (y.under i c.name) := by
  simp only [places_eq t, List.forall_mem_cons, mem_placesOfChildren, Nat.zero_add]
  refine and_congr_right fun _ => ⟨fun h i c hc y hy => h _ ⟨i, c, y, hc, hy, rfl⟩, ?_⟩
  rintro h _ ⟨i, c, y, hc, hy, rfl⟩
  exact h i c hc y hy

/-- The same of what types have. -/
theorem forall_type_places {t : TypeTree} {P : TypeTree → Prop} : (∀ x ∈ t.places, P x.type) ↔
    P t ∧ ∀ c ∈ t.children, ∀ x ∈ c.type.places, P x.type := by
  rw [forall_mem_places]
  refine and_congr_right fun _ => ⟨fun h c hc => ?_, fun h i c hc => h c (List.mem_of_getElem? hc)⟩
  obtain ⟨i, hi⟩ := List.getElem?_of_mem hc
  exact h i c hi

theorem position_place? {t : TypeTree} {x : Place} : ∀ {position : List Nat}, t.place? position = some x →
    x.position = position
  | [], h => by cases h; rfl
  | index :: rest, h => by
    obtain ⟨c, -, h⟩ := Option.bind_eq_some_iff.1 h
    obtain ⟨y, hy, rfl⟩ := Option.map_eq_some_iff.1 h
    exact congrArg _ (position_place? hy)

/-- The places listed are those that positions lead to. -/
theorem mem_places {t : TypeTree} {x : Place} : x ∈ t.places ↔ t.place? x.position = some x := by
  induction t using induction_children generalizing x with
  | step t ih =>
    rw [places_eq, List.mem_cons, mem_placesOfChildren]
    rcases x with ⟨_ | ⟨index, rest⟩, chain, type⟩
    · simp [place?, top, Place.under, eq_comm]
    · simp only [place?, top, Option.bind_eq_some_iff, Option.map_eq_some_iff]
      constructor
      · rintro (h | ⟨i, c, y, hc, hy, he⟩)
        · cases h
        · rw [Nat.zero_add] at he; cases he
          exact ⟨c, hc, y, (ih c (List.mem_of_getElem? hc)).1 hy, rfl⟩
      · rintro ⟨c, hc, y, hy, he⟩
        cases he
        exact .inr ⟨index, c, y, hc, (ih c (List.mem_of_getElem? hc)).2 hy, by rw [Nat.zero_add]; rfl⟩

/-- The places stand in the order of their positions: a place before those below it, and those below it
from left to right. -/
theorem pairwise_places (t : TypeTree) : t.places.Pairwise fun x y => x.position < y.position := by
  refine mutual_induction (P := fun t => t.places.Pairwise fun x y => x.position < y.position)
    (Q := fun cs => ∀ index, (placesOfChildren index cs).Pairwise fun x y => x.position < y.position) ?_ ?_ ?_ t
  · intro t ih
    rw [places_eq, List.pairwise_cons]
    refine ⟨fun y hy => ?_, ih 0⟩
    obtain ⟨i, d, y, -, -, rfl⟩ := mem_placesOfChildren.1 hy
    exact List.nil_lt_cons ..
  · intro index
    exact .nil
  · intro c rest hc hr index
    rw [placesOfChildren, List.pairwise_append, List.pairwise_map]
    refine ⟨hc.imp fun h => List.cons_lt_cons_iff.2 (.inr ⟨rfl, h⟩), hr (index + 1), fun x hx y hy => ?_⟩
    -- the positions of `x` and `y` begin with those of two children, the first of which is smaller
    obtain ⟨x, -, rfl⟩ := List.mem_map.1 hx
    obtain ⟨i, d, y, -, -, rfl⟩ := mem_placesOfChildren.1 hy
    exact List.cons_lt_cons_iff.2 (.inl (by omega))

/-! ## Types without records -/

/-- No place of the type is a record. -/
def RecordFree (t : TypeTree) : Prop := ∀ x ∈ t.places, x.type.isRecord = false

instance (t : TypeTree) : Decidable t.RecordFree := inferInstanceAs (Decidable (∀ x ∈ t.places, _))

/-- The first place that is a record. -/
def firstRecord? (t : TypeTree) : Option Place := t.places.find? (·.type.isRecord)

theorem firstRecord?_eq_none_iff {t : TypeTree} : t.firstRecord? = none ↔ t.RecordFree := by
  simp [firstRecord?, RecordFree]

end TypeTree

namespace Diagram

open TypeTree

/-! ## The walk lists the places -/

/-- The events with which places are entered: all but the ends of groups. -/
def entries (es : List Event) : List Event := es.filter fun e => e.kind ≠ .closeGroup

@[simp] theorem entries_append (a b : List Event) : entries (a ++ b) = entries a ++ entries b :=
  List.filter_append ..

theorem entries_entry (names : List String) (t : TypeTree) : entries [entry names t] = [entry names t] := by
  rcases hg : t.isGroup with _ | _ <;> simp [entries, entry, hg]

theorem placeEdges_group {t : TypeTree} (h : t.isGroup = true) (names : List String) : placeEdges names t = [] := by
  cases t with
  | object | union | array => rfl
  | primitive | literal | reference | record => cases h

theorem names_child_append (p : Path) (name : String) (chain : List String) :
    (p.child name).names ++ chain = p.names ++ name :: chain := by
  simp

/-- A walk enters every place once, depth-first, and has the edges of the places in the same order. -/
theorem walk_places {p : Path} {t : TypeTree} {w : Walk} (h : walk p t = .ok w) :
    entries w.events = t.places.map (fun x => entry (p.names ++ x.chain) x.type) ∧
      w.edges = t.places.flatMap (fun x => placeEdges (p.names ++ x.chain) x.type) := by
  refine walk_induction
    (P := fun p t w => entries w.events = t.places.map (fun x => entry (p.names ++ x.chain) x.type) ∧
      w.edges = t.places.flatMap (fun x => placeEdges (p.names ++ x.chain) x.type))
    (Q := fun p cs w => ∀ index,
      entries w.events = (placesOfChildren index cs).map (fun x => entry (p.names ++ x.chain) x.type) ∧
        w.edges = (placesOfChildren index cs).flatMap (fun x => placeEdges (p.names ++ x.chain) x.type))
    ?_ ?_ ?_ ?_ p t w h
  · intro p t hg hr
    rw [places_eq, children_of_not_group hg]
    simp [top, placesOfChildren, entries_entry]
  · intro p t inner hg hi
    obtain ⟨h1, h2⟩ := hi 0
    rw [places_eq]
    constructor
    · rw [← List.singleton_append, List.append_assoc, entries_append, entries_append, entries_entry, h1]
      simp [entries, top]
    · simp [h2, top, placeEdges_group hg]
  · intro p index
    exact ⟨rfl, rfl⟩
  · intro p x rest first others hf ho index
    obtain ⟨f1, f2⟩ := hf
    obtain ⟨o1, o2⟩ := ho (index + 1)
    simp only [placesOfChildren, List.map_append, List.flatMap_append, List.map_map, List.flatMap_map,
      Walk.events_append, Walk.edges_append, entries_append, f1, f2, o1, o2, names_child_append, Place.under,
      Function.comp_def, and_self]

/-! ## The walk stops at the first record -/

/-- What is held against a record at a place below a path. -/
def recordFault (p : Path) (x : Place) : Error := .unsupportedField (joinNames (p.names ++ x.chain)) "record"

theorem recordFault_under (p : Path) (index : Nat) (name : String) (x : Place) :
    recordFault p (x.under index name) = recordFault (p.child name) x := by
  rw [recordFault, recordFault, names_child_append]; rfl

theorem fault?_walk (p : Path) (t : TypeTree) : fault? (walk p t) = t.firstRecord?.map (recordFault p) := by
  refine mutual_induction (P := fun t => ∀ p, fault? (walk p t) = t.firstRecord?.map (recordFault p))
    (Q := fun cs => ∀ p index, fault? (walkChildren p cs) =
      ((placesOfChildren index cs).find? (·.type.isRecord)).map (recordFault p)) ?_ ?_ ?_ t p
  · intro t ih p
    rw [firstRecord?, places_eq]
    rcases hg : t.isGroup with _ | _
    · rw [children_of_not_group hg]
      rcases hr : t.isRecord with _ | _
      · rw [walk_leaf hg hr]; simp [fault?, top, hr, placesOfChildren]
      · rw [walk_record hr]; simp [fault?, top, hr, recordFault]
    · have hr : t.isRecord = false := by cases t <;> first | rfl | cases hg
      rw [walk_group hg, fault?_map, ih p 0, List.find?_cons_of_neg (by simp [top, hr])]
  · intro p index
    rfl
  · intro c rest hc hr p index
    -- the walk stops in the first child whose own walk stops
    rw [walkChildren, fault?_both, hc, hr p (index + 1), placesOfChildren, List.find?_append, List.find?_map,
      Option.map_or, Option.map_map]
    simp only [firstRecord?, Function.comp_def, recordFault_under]
    rfl

theorem walk_ok_iff {p : Path} {t : TypeTree} : (∃ w, walk p t = .ok w) ↔ t.RecordFree := by
  rw [← fault?_eq_none_iff, fault?_walk, Option.map_eq_none_iff, firstRecord?_eq_none_iff]

/-! ## The walk of a type without records -/

/-- The walk of a type without records enters the places of the type, depth-first and each of them once:
the places are listed in the order of their positions, and they are those that positions lead to. A place
is entered under the names of the path and then those on the way down to it. -/
theorem entries_walk (p : Path) {t : TypeTree} (h : t.RecordFree) :
    (∃ w, walk p t = .ok w ∧ entries w.events = t.places.map fun x => entry (p.names ++ x.chain) x.type) ∧
      (t.places.Pairwise fun x y => x.position < y.position) ∧
      ∀ position x, t.place? position = some x ↔ x ∈ t.places ∧ x.position = position := by
  obtain ⟨w, hw⟩ := walk_ok_iff.2 h
  refine ⟨⟨w, hw, (walk_places hw).1⟩, pairwise_places t, fun position x => ?_⟩
  constructor
  · intro hx
    obtain rfl := position_place? hx
    exact ⟨mem_places.2 hx, rfl⟩
  · rintro ⟨hx, rfl⟩
    exact mem_places.1 hx

/-- A field that may be left out, with a union of a reference and an array in it. -/
theorem entries_walk_optional_union :
    let t : TypeTree := .object [⟨"a", true, .union [.reference "u", .array (.literal (.bool true))]⟩]
    t.RecordFree ∧ ∃ w, walk (.root "t") t = .ok w ∧
      (entries w.events).map (fun e => (e.kind, e.node.path, e.node.label, e.node.linkedTable)) =
        [(.openGroup, "t", "t", none), (.openGroup, "t.a?", "a?", none),
          (.leaf, "t.a?.union.0", "union.0: id 'u'", some "u"), (.openGroup, "t.a?.union.1", "union.1", none),
          (.leaf, "t.a?.union.1.array.0", "array.0: literal 'true'", none)] := by
  intro t
  have ht : t.RecordFree := by decide
  obtain ⟨⟨w, hw, he⟩, -⟩ := entries_walk (.root "t") ht
  exact ⟨ht, w, hw, by rw [he]; rfl⟩

end Diagram

end SchemaChart
