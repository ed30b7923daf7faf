/-
Unions and arrays as objects. In a diagram a union looks like an object with a field for each of its members, and an
array like an object with a single field. With such objects in place of all unions and arrays a type has the same
places under the same names (`places_asObject`), and so it has the same walk, or the same record stops it
(`walk_asObject`).
-/
import SchemaChart.Proofs.Identifiers
import SchemaChart.Schema.Assembly

namespace SchemaChart

/-- Fields of distinct names all stay in the object that is put together from them. -/
theorem Assembly.objectType_of_nodup {fields : List (Field TypeTree)} (h : (fields.map (·.name)).Nodup) :
    objectType fields = .object fields := by
  have hkeys : (Dictionary.keys (fields.map fun f => (f.name, f))).Nodup := by
    rw [Dictionary.keys, List.map_map]
    exact h
  rw [objectType, Dictionary.ofPairs_of_nodup hkeys, List.map_map]
  exact congrArg TypeTree.object (List.map_id _)

namespace TypeTree

/-! ## Objects in place of unions and arrays -/

mutual

/-- The type with an object in place of each union and each array in it. A record stays as it is, with all that is
in it. -/
def asObject : TypeTree → TypeTree
  | .object fields => .object (fieldsAsObjects fields)
  | .union members => Assembly.objectType (memberFields 0 members)
  | .array element => Assembly.objectType [⟨Diagram.elementName, false, asObject element⟩]
  | t => t

def fieldsAsObjects : List (Field TypeTree) → List (Field TypeTree)
  | [] => []
  | ⟨name, optional, type⟩ :: rest => ⟨name, optional, asObject type⟩ :: fieldsAsObjects rest

/-- The fields that stand for members of a union, the first of them at position `index`. -/
def memberFields (index : Nat) : List TypeTree → List (Field TypeTree)
  | [] => []
  | type :: rest => ⟨Diagram.memberName index, false, asObject type⟩ :: memberFields (index + 1) rest

end

/-- A child with objects in place of unions and arrays. -/
def Child.asObject (c : Child) : Child := ⟨c.name, c.type.asObject⟩

/-- A place with objects in place of unions and arrays. -/
def Place.asObject (x : Place) : Place := ⟨x.position, x.chain, x.type.asObject⟩

theorem map_fieldChild_fieldsAsObjects : ∀ fields : List (Field TypeTree),
    (fieldsAsObjects fields).map fieldChild = (fields.map fieldChild).map Child.asObject
  | [] => rfl
  | ⟨name, optional, type⟩ :: rest => by
    simp only [fieldsAsObjects, List.map_cons, map_fieldChild_fieldsAsObjects rest]
    rfl

theorem memberFields_eq : ∀ (index : Nat) (members : List TypeTree), memberFields index members =
    members.mapIdx fun i t => ⟨Diagram.memberName (index + i : Nat), false, t.asObject⟩
  | _, [] => rfl
  | index, type :: rest => by
    simp only [memberFields, memberFields_eq (index + 1) rest, List.mapIdx_cons, Nat.add_right_comm index 1]
    rfl

theorem memberName_inj {i j : Nat} (h : Diagram.memberName i = Diagram.memberName j) : i = j :=
  toString_inj ((String.append_right_inj "union.").1 h)

/-- However many members a union has, their names are distinct. -/
theorem nodup_memberFields (members : List TypeTree) : ((memberFields 0 members).map (·.name)).Nodup := by
  rw [memberFields_eq, List.nodup_iff_injective_get]
  intro i j h
  simp only [List.get_eq_getElem, List.getElem_map, List.getElem_mapIdx, Nat.zero_add] at h
  exact Fin.ext (memberName_inj h)

theorem asObject_union (members : List TypeTree) : (union members).asObject = .object (memberFields 0 members) := by
  rw [asObject, Assembly.objectType_of_nodup (nodup_memberFields members)]

theorem asObject_array (element : TypeTree) :
    (array element).asObject = .object [⟨Diagram.elementName, false, element.asObject⟩] := by
  rw [asObject]
  exact Assembly.objectType_of_nodup (List.nodup_singleton Diagram.elementName)

theorem children_asObject (t : TypeTree) : t.asObject.children = t.children.map Child.asObject := by
  cases t with
  | object fields => exact map_fieldChild_fieldsAsObjects fields
  | union members =>
    rw [asObject_union, memberFields_eq]
    exact List.ext_getElem (by simp [children]) fun i _ _ => by
      simp only [children, List.getElem_map, List.getElem_mapIdx, Nat.zero_add]
      rfl
  | array element => rw [asObject_array]; rfl
  | primitive | literal | reference | record => rfl

theorem isGroup_asObject (t : TypeTree) : t.asObject.isGroup = t.isGroup := by
  cases t with
  | union members => rw [asObject_union]; rfl
  | array element => rw [asObject_array]; rfl
  | primitive | literal | reference | object | record => rfl

theorem asObject_of_not_group {t : TypeTree} (h : t.isGroup = false) : t.asObject = t := by
  cases t with
  | object | union | array => cases h
  | primitive | literal | reference | record => rfl

theorem isRoot_asObject {t : TypeTree} (h : t.isRoot = true) : t.asObject.isRoot = true := by
  cases t with
  | object fields => rfl
  | union members => rw [asObject_union]; rfl
  | primitive | literal | reference | array | record => cases h

/-- Whether the children of a type have no names but those of their positions. -/
def isPositional : TypeTree → Bool
  | .union _ => true
  | .array _ => true
  | _ => false

theorem isPositional_asObject (t : TypeTree) : t.asObject.isPositional = false := by
  cases t with
  | union members => rw [asObject_union]; rfl
  | array element => rw [asObject_array]; rfl
  | primitive | literal | reference | object | record => rfl

/-- The places stay where they are, under the names that they have. -/
theorem places_asObject (t : TypeTree) : t.asObject.places = t.places.map Place.asObject := by
  refine mutual_induction (P := fun t => t.asObject.places = t.places.map Place.asObject)
    (Q := fun cs => ∀ index, placesOfChildren index (cs.map Child.asObject) =
      (placesOfChildren index cs).map Place.asObject) ?_ ?_ ?_ t
  · intro t ih
    rw [places_eq, places_eq t, children_asObject, ih 0]
    rfl
  · intro index
    rfl
  · intro c rest hc hr index
    rw [List.map_cons, placesOfChildren, placesOfChildren, hr, List.map_append, List.map_map]
    congr 1
    rw [Child.asObject, hc, List.map_map]
    rfl

end TypeTree

namespace Diagram

open TypeTree

/-- The walk of a type is that of the type with objects in place of its unions and arrays. -/
theorem walk_asObject_eq (p : Path) (t : TypeTree) : walk p t.asObject = walk p t := by
  refine mutual_induction (P := fun t => ∀ p, walk p t.asObject = walk p t)
    (Q := fun cs => ∀ p, walkChildren p (cs.map Child.asObject) = walkChildren p cs) ?_ ?_ ?_ t p
  · intro t ih p
    rcases hg : t.isGroup with _ | _
    · rw [asObject_of_not_group hg]
    · rw [walk_group ((isGroup_asObject t).trans hg), walk_group hg, children_asObject, ih p]
  · intro p
    rfl
  · intro c rest hc hr p
    have hfirst : walk (p.child c.asObject.name) c.asObject.type = walk (p.child c.name) c.type := hc _
    rw [List.map_cons, walkChildren, walkChildren, hfirst, hr p]

/-- With objects in place of all its unions and arrays a type has its places as before, and none of them is a union or
an array any more. It is walked as before, at every path: with the same events and the same edges, or else the same
record stops the walk. So is the table of an object or a union. -/
theorem walk_asObject (t : TypeTree) :
    (t.asObject.places = t.places.map Place.asObject ∧ ∀ x ∈ t.asObject.places, x.type.isPositional = false) ∧
      (∀ p, walk p t.asObject = walk p t) ∧
      (∀ p e, walk p t = .error e → ∃ x ∈ t.places, x.type.isRecord = true ∧ e = recordFault p x) ∧
      ∀ name, t.isRoot = true → walkTable ⟨name, t.asObject⟩ = walkTable ⟨name, t⟩ := by
  refine ⟨⟨places_asObject t, fun x hx => ?_⟩, fun p => walk_asObject_eq p t, fun p e he => ?_, fun name ht => ?_⟩
  · rw [places_asObject] at hx
    obtain ⟨y, -, rfl⟩ := List.mem_map.1 hx
    exact isPositional_asObject y.type
  · rw [← fault?_eq_some_iff, fault?_walk] at he
    obtain ⟨x, hx, rfl⟩ := Option.map_eq_some_iff.1 he
    have hr := List.find?_some hx
    exact ⟨x, List.mem_of_find?_eq_some hx, hr, rfl⟩
  · rw [walkTable_root (isRoot_asObject ht), walkTable_root ht, walk_asObject_eq]

/-- A union of an array and an object with a union in it, and one in which an array of records stops the walk. -/
theorem walk_asObject_nested :
    let t : TypeTree := .union [.array (.reference "u"), .object [⟨"a", true, .union [.literal (.bool true)]⟩]]
    let r : TypeTree := .union [.primitive .string, .array (.record (.primitive .string) (.array (.reference "u")))]
    t.isRoot = true ∧ (∃ w, walkTable ⟨"t", t.asObject⟩ = .ok w ∧ w.edges = [⟨"t.union.0.array.0", "u"⟩] ∧
      (entries w.events).map (fun e => (e.kind, e.node.path)) = [(.openGroup, "t"), (.openGroup, "t.union.0"),
        (.leaf, "t.union.0.array.0"), (.openGroup, "t.union.1"), (.openGroup, "t.union.1.a?"),
        (.leaf, "t.union.1.a?.union.0")]) ∧
      r.isRoot = true ∧ walkTable ⟨"t", r.asObject⟩ = .error (.unsupportedField "t.union.1.array.0" "record") := by
  intro t r
  refine ⟨rfl, ⟨_, ((walk_asObject t).2.2.2 "t" rfl).trans rfl, ?_, ?_⟩, rfl, ?_⟩
  · rfl
  · rfl
  · exact ((walk_asObject r).2.2.2 "t" rfl).trans rfl

end Diagram

end SchemaChart
