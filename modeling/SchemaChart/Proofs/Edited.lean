/-
A type with something else at one of its places. Around the place everything stays as it is, so the walks of the old
and the new type are the same in front of what is drawn for the place, and the same behind it (`walk_replaceAt`). When
one field of an object is edited, what changes is what its type is drawn as at the place of the field
(`walk_edited`).
-/
import SchemaChart.Proofs.Groups
import SchemaChart.Proofs.Moved

namespace SchemaChart

theorem modify_append_cons {α : Type} (f : α → α) (before : List α) (a : α) (after : List α) :
    (before ++ a :: after).modify before.length f = before ++ f a :: after := by
  induction before with
  | nil => rfl
  | cons b before ih => rw [List.cons_append, List.length_cons, List.modify_succ_cons, ih, List.cons_append]

namespace TypeTree

/-! ## Editing a place -/

/-- The type with another one at a position; the same type if it does not reach that far. -/
def replaceAt : TypeTree → (position : List Nat) → (new : TypeTree) → TypeTree
  | _, [], new => new
  | .object fields, index :: rest, new =>
    .object (fields.modify index fun f => { f with type := f.type.replaceAt rest new })
  | .union members, index :: rest, new => .union (members.modify index fun t => t.replaceAt rest new)
  | .array element, 0 :: rest, new => .array (element.replaceAt rest new)
  | t, _ :: _, _ => t

/-- Below the top one child is edited, which keeps its name. -/
theorem children_replaceAt_cons (t : TypeTree) (index : Nat) (rest : List Nat) (new : TypeTree) :
    (t.replaceAt (index :: rest) new).children =
      t.children.modify index fun c => ⟨c.name, c.type.replaceAt rest new⟩ := by
  apply List.ext_getElem?
  intro i
  cases t with
  | object fields =>
    simp only [replaceAt, children, List.getElem?_map, List.getElem?_modify]
    by_cases h : index = i
    · rcases fields[i]? with _ | f <;> simp [h, fieldChild]
    · rcases fields[i]? with _ | f <;> simp [h]
  | union members =>
    simp only [replaceAt, children, List.getElem?_mapIdx, List.getElem?_modify]
    by_cases h : index = i
    · rcases members[i]? with _ | t <;> simp [h, memberChild]
    · rcases members[i]? with _ | t <;> simp [h]
  | array element =>
    rcases index with _ | index
    · rcases i with _ | i <;> rfl
    · simp [replaceAt, children]
  | primitive | literal | reference | record => simp [replaceAt, children]

end TypeTree

namespace Diagram

open TypeTree

/-! ## Walks taken apart -/

/-- The path of what a chain of names leads to from a path. -/
def Path.under (p : Path) : List String → Path
  | [] => p
  | name :: rest => (p.child name).under rest

variable {p : Path}

theorem walkChildren_append {a b : List Child} {w : Walk} : walkChildren p (a ++ b) = .ok w ↔
    ∃ v v', walkChildren p a = .ok v ∧ walkChildren p b = .ok v' ∧ v ++ v' = w := by
  induction a generalizing w with
  | nil => simp [walkChildren]
  | cons x a ih =>
    rw [List.cons_append, walkChildren, walkChildren, both_eq_ok_iff]
    constructor
    · rintro ⟨first, others, hf, ho, rfl⟩
      obtain ⟨v, v', hv, hv', rfl⟩ := ih.1 ho
      exact ⟨first ++ v, v', both_eq_ok_iff.2 ⟨first, v, hf, hv, rfl⟩, hv', Walk.append_assoc ..⟩
    · rintro ⟨_, v', h, hv', rfl⟩
      obtain ⟨first, v, hf, hv, rfl⟩ := both_eq_ok_iff.1 h
      exact ⟨first, v ++ v', hf, ih.2 ⟨v, v', hv, hv', rfl⟩, (Walk.append_assoc ..).symm⟩

/-- What is drawn in front of a child of a type at a path: the beginning of the group, and the children before. -/
def frontWalk (p : Path) (before : Walk) : Walk := ⟨⟨.openGroup, groupNode p⟩ :: before.events, before.edges⟩

/-- What is drawn behind a child of a type at a path: the children after it, and the end of the group. -/
def backWalk (p : Path) (after : Walk) : Walk := ⟨after.events ++ [⟨.closeGroup, groupNode p⟩], after.edges⟩

/-- The walk of a type is that of any of its children, with what is drawn for the others around it. -/
theorem walk_eq_ok_iff_of_child {t : TypeTree} {before after : List Child} {c : Child} {w : Walk}
    (h : t.children = before ++ c :: after) : walk p t = .ok w ↔ ∃ v seg v', walkChildren p before = .ok v ∧
      walk (p.child c.name) c.type = .ok seg ∧ walkChildren p after = .ok v' ∧
      w = frontWalk p v ++ seg ++ backWalk p v' := by
  have hg : t.isGroup = true := by
    rcases hg : t.isGroup with _ | _
    · rw [children_of_not_group hg] at h
      simp at h
    · rfl
  have hwalk : ∀ v seg v' : Walk, groupWalk p (v ++ (seg ++ v')) = frontWalk p v ++ seg ++ backWalk p v' := by
    intro v seg v'
    refine congrArg₂ Walk.mk ?_ ?_ <;> simp [frontWalk, backWalk]
  rw [walk_group hg, map_eq_ok_iff, h]
  constructor
  · rintro ⟨inner, hi, rfl⟩
    obtain ⟨v, _, hv, hrest, rfl⟩ := walkChildren_append.1 hi
    obtain ⟨seg, v', hseg, hv', rfl⟩ := walkChildren_cons hrest
    exact ⟨v, seg, v', hv, hseg, hv', hwalk ..⟩
  · rintro ⟨v, seg, v', hv, hseg, hv', rfl⟩
    have hrest : walkChildren p (c :: after) = .ok (seg ++ v') := both_eq_ok_iff.2 ⟨seg, v', hseg, hv', rfl⟩
    exact ⟨_, walkChildren_append.2 ⟨v, seg ++ v', hv, hrest, rfl⟩, hwalk ..⟩

/-! ## Walks of edited types -/

/-- Whatever stands at a place is drawn between the same events and the same edges. -/
theorem walk_replaceAt {position : List Nat} {t : TypeTree} {x : Place} {w : Walk}
    (hx : t.place? position = some x) (h : walk p t = .ok w) :
    ∃ pre seg post, w = pre ++ seg ++ post ∧ walk (p.under x.chain) x.type = .ok seg ∧
      ∀ new seg', walk (p.under x.chain) new = .ok seg' →
        walk p (t.replaceAt position new) = .ok (pre ++ seg' ++ post) := by
  induction position generalizing p t x w with
  | nil =>
    cases hx
    refine ⟨.empty, w, .empty, by simp, h, fun new seg' hnew => ?_⟩
    have hnew : walk p new = .ok seg' := hnew
    simpa [replaceAt] using hnew
  | cons index rest ih =>
    obtain ⟨c, hc, hx⟩ := Option.bind_eq_some_iff.1 hx
    obtain ⟨y, hy, rfl⟩ := Option.map_eq_some_iff.1 hx
    obtain ⟨before, after, hsplit, rfl⟩ := getElem?_eq_some_iff_append.1 hc
    obtain ⟨v, first, v', hv, hfirst, hv', rfl⟩ := (walk_eq_ok_iff_of_child hsplit).1 h
    obtain ⟨pre, seg, post, rfl, hseg, hnew⟩ := ih hy hfirst
    have hassoc : ∀ seg, frontWalk p v ++ pre ++ seg ++ (post ++ backWalk p v') =
        frontWalk p v ++ (pre ++ seg ++ post) ++ backWalk p v' := by
      intro seg
      simp only [Walk.append_assoc]
    refine ⟨frontWalk p v ++ pre, seg, post ++ backWalk p v', (hassoc seg).symm, hseg, fun new seg' hseg' => ?_⟩
    -- the children of the edited type are those before, the edited one, and those after
    have hedited : (t.replaceAt (before.length :: rest) new).children =
        before ++ ⟨c.name, c.type.replaceAt rest new⟩ :: after := by
      rw [children_replaceAt_cons, hsplit, modify_append_cons]
    rw [hassoc]
    exact (walk_eq_ok_iff_of_child hedited).2 ⟨v, _, v', hv, hnew new seg' hseg', hv', rfl⟩

theorem text_child_optional (p : Path) (name : String) :
    (p.child (name ++ "?")).text = (p.child name).text ++ "?" := by
  simp only [Path.text_child, String.append_assoc]

/-- A field of an object at any place of a type without records is edited: its name, whether it may be left out, or its
type. The walk changes in the part that is the walk of the type of the field by itself, at the path of the object with
the name of the field behind it. If the field may now be left out, and could not before, all identifiers in that part
have a question mark more, behind the name of the field, and so have the name and the label of the field. -/
theorem walk_edited (p : Path) {t : TypeTree} {x : Place} {before after : List (Field TypeTree)}
    {f g : Field TypeTree} (hx : x ∈ t.places) (hobject : x.type = .object (before ++ f :: after))
    (ht : t.RecordFree) (hg : g.type.RecordFree) :
    let q := p.under x.chain
    (∃ pre seg seg' post, walk p t = .ok (pre ++ seg ++ post) ∧
      walk p (t.replaceAt x.position (.object (before ++ g :: after))) = .ok (pre ++ seg' ++ post) ∧
      walk (q.child (fieldName f.name f.optional)) f.type = .ok seg ∧
      walk (q.child (fieldName g.name g.optional)) g.type = .ok seg' ∧
      (f.optional = false → g = { f with optional := true } →
        Moved (q.child f.name) (q.child (f.name ++ "?")) seg seg')) ∧
      (q.child (f.name ++ "?")).text = (q.child f.name).text ++ "?" := by
  intro q
  refine ⟨?_, text_child_optional q f.name⟩
  obtain ⟨w, hw⟩ := walk_ok_iff.2 ht
  obtain ⟨pre, obj, post, rfl, hobj, hnew⟩ := walk_replaceAt (mem_places.1 hx) hw
  -- inside the object, the field stands between its siblings
  have hchildren : ∀ g : Field TypeTree, (TypeTree.object (before ++ g :: after)).children =
      before.map fieldChild ++ fieldChild g :: after.map fieldChild := by
    intro g
    simp [children]
  rw [hobject] at hobj
  obtain ⟨v, seg, v', hv, hseg, hv', rfl⟩ := (walk_eq_ok_iff_of_child (hchildren f)).1 hobj
  obtain ⟨seg', hseg'⟩ := walk_ok_iff (p := q.child (fieldName g.name g.optional)).2 hg
  have hedited := hnew _ _ ((walk_eq_ok_iff_of_child (hchildren g)).2 ⟨v, seg', v', hv, hseg', hv', rfl⟩)
  refine ⟨pre ++ frontWalk q v, seg, seg', backWalk q v' ++ post, ?_, ?_, hseg, hseg', ?_⟩
  · rw [hw]
    simp only [q, Walk.append_assoc]
  · rw [hedited]
    simp only [q, Walk.append_assoc]
  · rintro hf rfl
    refine moved_walk f.type ?_ hseg'
    have hname : (fieldChild f).name = f.name := by simp [fieldChild, hf]
    rw [hname] at hseg
    exact hseg

/-- A field inside a union, with an array of references, that may now be left out. -/
theorem walk_edited_optional :
    let before : TypeTree := .object [⟨"a", true, .union [.object [⟨"b", false, .array (.reference "u")⟩,
      ⟨"c", false, .primitive .string⟩]]⟩]
    let edited : TypeTree := .object [⟨"a", true, .union [.object [⟨"b", true, .array (.reference "u")⟩,
      ⟨"c", false, .primitive .string⟩]]⟩]
    let q : Path := ⟨["t", "a?"], "union.0"⟩
    before.RecordFree ∧ ∃ pre seg seg' post, walk (.root "t") before = .ok (pre ++ seg ++ post) ∧
      walk (.root "t") edited = .ok (pre ++ seg' ++ post) ∧ Moved (q.child "b") (q.child "b?") seg seg' ∧
      seg.edges = [⟨"t.a?.union.0.b.array.0", "u"⟩] ∧ seg'.edges = [⟨"t.a?.union.0.b?.array.0", "u"⟩] := by
  intro before edited q
  have ht : before.RecordFree := by decide
  obtain ⟨⟨pre, seg, seg', post, hw, hw', hseg, hseg', hmoved⟩, -⟩ := walk_edited (.root "t") (t := before)
    (x := ⟨[0, 0], ["a?", "union.0"], _⟩) (g := ⟨"b", true, .array (.reference "u")⟩) (mem_places.2 rfl)
    (show _ = TypeTree.object ([] ++ ⟨"b", false, .array (.reference "u")⟩ :: _) from rfl) ht (by decide)
  refine ⟨ht, pre, seg, seg', post, hw, hw', hmoved rfl rfl, ?_, ?_⟩
  · cases hseg
    rfl
  · cases hseg'
    rfl

end Diagram

end SchemaChart
