/-
What the events of a walk tell about the type. They tell everything but two things: whether a group without
children is an object or a union, and what a literal is beyond its text. The form of a type that leaves these two
out (`shown`) has the same walk as the type (`walk_shown`). Where no name of a field holds a dot or ends in a
question mark, the events tell the form, whatever stands behind them (`tellsForm`).
-/
import SchemaChart.Proofs.Identifiers

namespace SchemaChart

theorem Primitive.name_inj {k l : Primitive} (h : k.name = l.name) : k = l := by
  rw [← Option.some_inj, ← Primitive.ofName?_name k, h, Primitive.ofName?_name]

namespace TypeTree

/-! ## The form that is shown -/

mutual

/-- The type as far as a diagram shows it: a literal by its text alone, and a union without members as an object
without fields. -/
def shown : TypeTree → TypeTree
  | .primitive kind => .primitive kind
  | .literal value => .literal (.str value.text)
  | .reference table => .reference table
  | .object fields => .object (shownFields fields)
  | .union [] => .object []
  | .union (type :: rest) => .union (shown type :: shownMembers rest)
  | .array element => .array (shown element)
  | .record key value => .record (shown key) (shown value)

def shownFields : List (Field TypeTree) → List (Field TypeTree)
  | [] => []
  | ⟨name, optional, type⟩ :: rest => ⟨name, optional, shown type⟩ :: shownFields rest

def shownMembers : List TypeTree → List TypeTree
  | [] => []
  | type :: rest => shown type :: shownMembers rest

end

/-- A child as far as a diagram shows it. -/
def Child.shown (c : Child) : Child := ⟨c.name, c.type.shown⟩

theorem map_fieldChild_shownFields : ∀ fields : List (Field TypeTree),
    (shownFields fields).map fieldChild = (fields.map fieldChild).map Child.shown
  | [] => rfl
  | ⟨name, optional, type⟩ :: rest => by
    simp only [shownFields, List.map_cons, map_fieldChild_shownFields rest]
    rfl

theorem shownMembers_eq : ∀ members : List TypeTree, shownMembers members = members.map shown
  | [] => rfl
  | type :: rest => by simp only [shownMembers, List.map_cons, shownMembers_eq rest]

theorem children_union_map (members : List TypeTree) :
    (union (members.map shown)).children = (union members).children.map Child.shown :=
  List.ext_getElem (by simp [children]) fun i _ _ => by simp [children, memberChild, Child.shown]

theorem children_shown (t : TypeTree) : t.shown.children = t.children.map Child.shown := by
  cases t with
  | object fields => exact map_fieldChild_shownFields fields
  | union members =>
    cases members with
    | nil => rfl
    | cons type rest =>
      rw [shown, shownMembers_eq, ← List.map_cons, children_union_map]
  | primitive | literal | reference | array | record => rfl

theorem isGroup_shown (t : TypeTree) : t.shown.isGroup = t.isGroup := by
  cases t with
  | union members => cases members <;> rfl
  | primitive | literal | reference | object | array | record => rfl

theorem isRecord_shown (t : TypeTree) : t.shown.isRecord = t.isRecord := by
  cases t with
  | union members => cases members <;> rfl
  | primitive | literal | reference | object | array | record => rfl

theorem label_shown (name : String) (t : TypeTree) : t.shown.label name = t.label name := by
  cases t with
  | union members => cases members <;> rfl
  | primitive | literal | reference | object | array | record => rfl

theorem linkedTable_shown (t : TypeTree) : t.shown.linkedTable = t.linkedTable := by
  cases t with
  | union members => cases members <;> rfl
  | primitive | literal | reference | object | array | record => rfl

/-! ## Types by the names of their children -/

/-- The fields of a type have plain names. -/
def PlainNamed : TypeTree → Prop
  | .object fields => ∀ f ∈ fields, PlainName f.name
  | _ => True

instance : (t : TypeTree) → Decidable t.PlainNamed
  | .object fields => inferInstanceAs (Decidable (∀ f ∈ fields, PlainName f.name))
  | .primitive _ | .literal _ | .reference _ | .union _ | .array _ | .record _ _ => inferInstanceAs (Decidable True)

/-- A field with a plain name is found again in the child that it is. -/
theorem fieldChild_inj {f g : Field TypeTree} (hf : PlainName f.name) (hg : PlainName g.name)
    (h : fieldChild f = fieldChild g) : f = g := by
  have hname := name_of_fieldChild hf hg (congrArg Child.name h)
  obtain ⟨name, optional, type⟩ := f
  obtain ⟨_, optional', type'⟩ := g
  cases hname
  obtain ⟨hn, rfl⟩ := Child.mk.inj h
  -- of one name, only one that may be left out is longer as a child
  have hlength := congrArg String.length hn
  cases optional <;> cases optional' <;> simp at hlength ⊢

theorem map_fieldChild_inj : ∀ {fs gs : List (Field TypeTree)}, (∀ f ∈ fs, PlainName f.name) →
    (∀ g ∈ gs, PlainName g.name) → fs.map fieldChild = gs.map fieldChild → fs = gs
  | [], [], _, _, _ => rfl
  | f :: fs, g :: gs, hf, hg, h => by
    obtain ⟨h1, h2⟩ := List.cons.inj h
    obtain ⟨hf1, hf2⟩ := List.forall_mem_cons.1 hf
    obtain ⟨hg1, hg2⟩ := List.forall_mem_cons.1 hg
    rw [fieldChild_inj hf1 hg1 h1, map_fieldChild_inj hf2 hg2 h2]

theorem map_type_children_union (members : List TypeTree) : (union members).children.map Child.type = members :=
  List.ext_getElem (by simp [children]) fun i _ _ => by simp [children, memberChild]

/-- A child with a dot in its name is none of an object with plain names. -/
theorem map_fieldChild_ne_cons {fields : List (Field TypeTree)} (h : ∀ f ∈ fields, PlainName f.name) {c : Child}
    (hdot : '.' ∈ c.name.toList) (rest : List Child) : fields.map fieldChild ≠ c :: rest := by
  intro he
  obtain ⟨f, hf, rfl⟩ := List.mem_map.1 (he ▸ List.mem_cons_self ..)
  exact dot_not_mem_fieldChild (h f hf) hdot

theorem dot_mem_memberChild (index : Nat) (t : TypeTree) : '.' ∈ (memberChild index t).name.toList := by
  simp [memberChild]

theorem dot_mem_elementChild (t : TypeTree) : '.' ∈ (elementChild t).name.toList := by
  simp [elementChild]

theorem memberChild_ne_elementChild (t u : TypeTree) : memberChild 0 t ≠ elementChild u := by
  intro h
  have hname : "union.0" = "array.0" := congrArg Child.name h
  exact absurd hname (by decide)

theorem children_union_cons (type : TypeTree) (rest : List TypeTree) :
    (union (type :: rest)).children = memberChild 0 type :: rest.mapIdx fun i => memberChild (i + 1) :=
  List.mapIdx_cons

/-- A type that can have children is known by them, but for a union without members. -/
theorem children_inj {t u : TypeTree} (ht : t.isGroup = true) (hu : u.isGroup = true) (pt : t.PlainNamed)
    (pu : u.PlainNamed) (nt : t ≠ .union []) (nu : u ≠ .union []) (h : t.children = u.children) : t = u := by
  cases t with
  | object fields =>
    cases u with
    | object others => exact congrArg object (map_fieldChild_inj pt pu h)
    | union members =>
      cases members with
      | nil => exact absurd rfl nu
      | cons type rest =>
        rw [children_union_cons] at h
        exact absurd h (map_fieldChild_ne_cons pt (dot_mem_memberChild 0 type) _)
    | array element => exact absurd h (map_fieldChild_ne_cons pt (dot_mem_elementChild element) [])
    | primitive | literal | reference | record => cases hu
  | union members =>
    cases u with
    | union others => rw [← map_type_children_union members, h, map_type_children_union]
    | object fields =>
      cases members with
      | nil => exact absurd rfl nt
      | cons type rest =>
        rw [children_union_cons] at h
        exact absurd h.symm (map_fieldChild_ne_cons pu (dot_mem_memberChild 0 type) _)
    | array element =>
      cases members with
      | nil => exact absurd rfl nt
      | cons type rest =>
        rw [children_union_cons] at h
        exact absurd (List.cons.inj h).1 (memberChild_ne_elementChild type element)
    | primitive | literal | reference | record => cases hu
  | array element =>
    cases u with
    | array other => exact congrArg (fun c => array c.type) (List.singleton_inj.1 h)
    | object fields => exact absurd h.symm (map_fieldChild_ne_cons pu (dot_mem_elementChild element) [])
    | union members =>
      cases members with
      | nil => exact absurd rfl nu
      | cons type rest =>
        rw [children_union_cons] at h
        exact absurd (List.cons.inj h).1.symm (memberChild_ne_elementChild type element)
    | primitive | literal | reference | record => cases hu
  | primitive | literal | reference | record => cases ht

theorem shown_ne_union_nil (t : TypeTree) : t.shown ≠ .union [] := by
  cases t with
  | union members => cases members <;> simp [shown]
  | primitive | literal | reference | object | array | record => simp [shown]

theorem plainNamed_shown {t : TypeTree} (h : t.PlainNamed) : t.shown.PlainNamed := by
  have all : ∀ fields : List (Field TypeTree), (∀ f ∈ fields, PlainName f.name) →
      ∀ f ∈ shownFields fields, PlainName f.name := by
    intro fields hf
    induction fields with
    | nil => exact hf
    | cons f rest ih =>
      obtain ⟨h1, h2⟩ := List.forall_mem_cons.1 hf
      exact List.forall_mem_cons.2 ⟨h1, ih h2⟩
  cases t with
  | object fields => exact all fields h
  | union members => cases members <;> trivial
  | primitive | literal | reference | array | record => trivial

end TypeTree

namespace Diagram

open TypeTree

/-! ## The walk of the form -/

theorem placeNode_shown (names : List String) (t : TypeTree) : placeNode names t.shown = placeNode names t := by
  simp only [placeNode, isGroup_shown, label_shown, linkedTable_shown]

theorem walkChildren_congr {cs : List Child} (h : ∀ c ∈ cs, ∀ p, walk p c.type.shown = walk p c.type) (p : Path) :
    walkChildren p (cs.map Child.shown) = walkChildren p cs := by
  induction cs with
  | nil => rfl
  | cons c rest ih =>
    obtain ⟨hc, hr⟩ := List.forall_mem_cons.1 h
    simp only [List.map_cons, walkChildren, Child.shown, hc, ih hr]

/-- What is not shown of a type does not matter for its walk. -/
theorem walk_shown (p : Path) (t : TypeTree) : walk p t.shown = walk p t := by
  induction t using induction_children generalizing p with
  | step t ih =>
    rcases hg : t.isGroup with _ | _
    · rcases hr : t.isRecord with _ | _
      · rw [walk_leaf hg hr, walk_leaf ((isGroup_shown t).trans hg) ((isRecord_shown t).trans hr), entry, entry,
          isGroup_shown, placeNode_shown, placeEdges, placeEdges, linkedTable_shown]
      · rw [walk_record hr, walk_record ((isRecord_shown t).trans hr)]
    · rw [walk_group hg, walk_group ((isGroup_shown t).trans hg), children_shown, walkChildren_congr fun c hc p => ih c hc p]

/-! ## From the events to the form -/

/-- A walk begins with the entry of its place. -/
theorem walk_eq_cons {p : Path} {t : TypeTree} {w : Walk} (h : walk p t = .ok w) :
    ∃ behind, w.events = entry p.names t :: behind := by
  rcases walk_cases h with ⟨-, -, rfl⟩ | ⟨-, inner, -, rfl⟩
  · exact ⟨[], rfl⟩
  · exact ⟨_, rfl⟩

theorem isGroup_eq_of_entry_eq {names names' : List String} {t u : TypeTree} (h : entry names t = entry names' u) :
    t.isGroup = u.isGroup := by
  have hkind := congrArg Event.kind h
  rcases ht : t.isGroup with _ | _ <;> rcases hu : u.isGroup with _ | _ <;> simp [entry, ht, hu] at hkind ⊢

theorem entry_ne_closeGroup (names : List String) (t : TypeTree) (n : Node) : entry names t ≠ ⟨.closeGroup, n⟩ := by
  intro h
  have hkind := congrArg Event.kind h
  rcases hg : t.isGroup with _ | _ <;> simp [entry, hg] at hkind

/-- The entry of a child tells its name. -/
theorem name_eq_of_entry_eq {p : Path} {c d : Child} (h : entry (p.child c.name).names c.type =
    entry (p.child d.name).names d.type) : c.name = d.name := by
  have hname : (entry (p.child c.name).names c.type).node.displayName =
      (entry (p.child d.name).names d.type).node.displayName := by rw [h]
  simpa [entry, placeNode] using hname

theorem label_literal (value : Literal) (name : String) :
    (literal value).label name = name ++ ": " ++ ("literal '" ++ (value.text ++ "'")) := by
  show name ++ (": " ++ "literal '") ++ value.text ++ "'" = _
  simp only [String.append_assoc]

/-- No name of a primitive has a quote in it, and the label of a literal ends in one. -/
theorem label_primitive_ne (kind : Primitive) (value : Literal) (name : String) :
    (primitive kind).label name ≠ (literal value).label name := by
  intro h
  rw [label_literal] at h
  have hname : kind.name = "literal '" ++ (value.text ++ "'") := (String.append_right_inj _).1 h
  have hno : '\x27' ∉ kind.name.toList := by cases kind <;> decide
  rw [hname] at hno
  simp at hno

/-- A leaf tells the form of its type. -/
theorem shown_eq_of_placeNode_eq {names : List String} {t u : TypeTree} (ht : t.isGroup = false)
    (hu : u.isGroup = false) (rt : t.isRecord = false) (ru : u.isRecord = false)
    (h : placeNode names t = placeNode names u) : t.shown = u.shown := by
  generalize hname : names.getLast?.getD "" = name at *
  have hlabel : t.label name = u.label name := by
    have := congrArg Node.label h
    rwa [placeNode, placeNode, hname] at this
  have hlinked : t.linkedTable = u.linkedTable := congrArg Node.linkedTable h
  cases t with
  | primitive kind =>
    cases u with
    | primitive other =>
      have hkind : kind.name = other.name := (String.append_right_inj _).1 hlabel
      rw [Primitive.name_inj hkind]
    | literal value => exact absurd hlabel (label_primitive_ne kind value name)
    | reference table => cases hlinked
    | object | union | array => cases hu
    | record => cases ru
  | literal value =>
    cases u with
    | primitive kind => exact absurd hlabel.symm (label_primitive_ne kind value name)
    | literal other =>
      rw [label_literal, label_literal, String.append_right_inj, String.append_right_inj,
        String.append_left_inj] at hlabel
      rw [shown, shown, hlabel]
    | reference table => cases hlinked
    | object | union | array => cases hu
    | record => cases ru
  | reference table =>
    cases u with
    | primitive | literal => cases hlinked
    | reference other => cases hlinked; rfl
    | object | union | array => cases hu
    | record => cases ru
  | object | union | array => cases ht
  | record => cases rt

/-- Whether the events of a walk tell the form of the type, and where they end, whatever stands behind them. -/
def TellsForm (t : TypeTree) : Prop :=
  ∀ {u : TypeTree} {p : Path} {w v : Walk} {r s : List Event}, (∀ x ∈ t.places, x.type.PlainNamed) →
    (∀ x ∈ u.places, x.type.PlainNamed) → walk p t = .ok w → walk p u = .ok v → w.events ++ r = v.events ++ s →
      t.shown = u.shown ∧ r = s

/-- The same of children, behind which the group around them ends. -/
def TellForms (cs : List Child) : Prop :=
  ∀ {ds : List Child} {p : Path} {w v : Walk} {m n : Node} {r s : List Event},
    (∀ c ∈ cs, ∀ x ∈ c.type.places, x.type.PlainNamed) → (∀ d ∈ ds, ∀ x ∈ d.type.places, x.type.PlainNamed) →
      walkChildren p cs = .ok w → walkChildren p ds = .ok v →
        w.events ++ ⟨.closeGroup, m⟩ :: r = v.events ++ ⟨.closeGroup, n⟩ :: s →
          cs.map Child.shown = ds.map Child.shown ∧ r = s

theorem tellsForm_of_children {t : TypeTree} (ih : TellForms t.children) : TellsForm t := by
  intro u p w v r s pt pu hw hv h
  obtain ⟨ht, hct⟩ := forall_type_places.1 pt
  obtain ⟨hu, hcu⟩ := forall_type_places.1 pu
  obtain ⟨behind, hb⟩ := walk_eq_cons hw
  obtain ⟨behind', hb'⟩ := walk_eq_cons hv
  -- the first event tells a leaf from a group
  have hg : t.isGroup = u.isGroup := by
    rw [hb, hb'] at h
    exact isGroup_eq_of_entry_eq (List.cons.inj h).1
  rcases walk_cases hw with ⟨gt, rt, rfl⟩ | ⟨gt, inner, hi, rfl⟩
  · rcases walk_cases hv with ⟨gu, ru, rfl⟩ | ⟨gu, inner, hi, rfl⟩
    · obtain ⟨he, hrest⟩ := List.cons.inj h
      exact ⟨shown_eq_of_placeNode_eq gt gu rt ru (congrArg Event.node he), hrest⟩
    · rw [gt, gu] at hg; cases hg
  · rcases walk_cases hv with ⟨gu, ru, rfl⟩ | ⟨gu, inner', hi', rfl⟩
    · rw [gt, gu] at hg; cases hg
    · rw [List.append_assoc, List.append_assoc] at h
      obtain ⟨hcs, hrs⟩ := ih hct hcu hi hi' (List.cons.inj h).2
      refine ⟨children_inj ?_ ?_ (plainNamed_shown ht) (plainNamed_shown hu) (shown_ne_union_nil t)
        (shown_ne_union_nil u) ?_, hrs⟩
      · rw [isGroup_shown, gt]
      · rw [isGroup_shown, gu]
      · rw [children_shown, children_shown, hcs]

/-- The end of a group is not the beginning of a child. -/
theorem walkChildren_ne_closeGroup {p : Path} {c : Child} {cs : List Child} {w : Walk} {n : Node} {r s : List Event}
    (h : walkChildren p (c :: cs) = .ok w) : ⟨.closeGroup, n⟩ :: r ≠ w.events ++ s := by
  obtain ⟨first, others, h1, -, rfl⟩ := walkChildren_cons h
  obtain ⟨behind, hb⟩ := walk_eq_cons h1
  intro he
  rw [Walk.events_append, hb] at he
  exact absurd (List.cons.inj he).1.symm (entry_ne_closeGroup _ _ _)

theorem tellForms_nil : TellForms [] := by
  intro ds p w v m n r s _ _ hw hv h
  cases hw
  cases ds with
  | nil =>
    cases hv
    exact ⟨rfl, (List.cons.inj h).2⟩
  | cons d ds => exact absurd h (walkChildren_ne_closeGroup hv)

theorem tellForms_cons {c : Child} {cs : List Child} (hc : TellsForm c.type) (hcs : TellForms cs) :
    TellForms (c :: cs) := by
  intro ds p w v m n r s pcs pds hw hv h
  cases ds with
  | nil =>
    cases hv
    exact absurd h.symm (walkChildren_ne_closeGroup hw)
  | cons d ds =>
    obtain ⟨first, others, h1, h2, rfl⟩ := walkChildren_cons hw
    obtain ⟨first', others', h1', h2', rfl⟩ := walkChildren_cons hv
    obtain ⟨pc, pcs⟩ := List.forall_mem_cons.1 pcs
    obtain ⟨pd, pds⟩ := List.forall_mem_cons.1 pds
    rw [Walk.events_append, Walk.events_append, List.append_assoc, List.append_assoc] at h
    -- the first events tell that the children have one name, so that both walks are below one path
    have hname : c.name = d.name := by
      obtain ⟨behind, hb⟩ := walk_eq_cons h1
      obtain ⟨behind', hb'⟩ := walk_eq_cons h1'
      rw [hb, hb'] at h
      exact name_eq_of_entry_eq (List.cons.inj h).1
    rw [← hname] at h1'
    obtain ⟨htype, hrest⟩ := hc pc pd h1 h1' h
    obtain ⟨htypes, hrs⟩ := hcs pcs pds h2 h2' hrest
    refine ⟨?_, hrs⟩
    rw [List.map_cons, List.map_cons, htypes, Child.shown, Child.shown, hname, htype]

theorem tellsForm (t : TypeTree) : TellsForm t :=
  mutual_induction (fun _ => tellsForm_of_children) tellForms_nil (fun _ _ => tellForms_cons) t

/-! ## Equal walks -/

/-- Two types without records have one walk at a path exactly when they have one form, where the names of their
fields are plain; and then already their events are different as soon as their forms are. -/
theorem walk_eq_iff_shown_eq (p : Path) {t u : TypeTree} (ht : t.RecordFree) (hu : u.RecordFree)
    (pt : ∀ x ∈ t.places, x.type.PlainNamed) (pu : ∀ x ∈ u.places, x.type.PlainNamed) :
    (walk p t = walk p u ↔ t.shown = u.shown) ∧ ∃ w v, walk p t = .ok w ∧ walk p u = .ok v ∧
      (w.events = v.events ↔ t.shown = u.shown) := by
  obtain ⟨w, hw⟩ := (walk_ok_iff (p := p)).2 ht
  obtain ⟨v, hv⟩ := (walk_ok_iff (p := p)).2 hu
  have hform : t.shown = u.shown → walk p t = walk p u := by
    intro h
    rw [← walk_shown p t, h, walk_shown]
  have hevents : w.events = v.events → t.shown = u.shown := fun h =>
    (tellsForm t pt pu hw hv (r := []) (s := []) (by rw [h])).1
  refine ⟨⟨fun h => ?_, hform⟩, w, v, hw, hv, hevents, fun h => ?_⟩
  · rw [hw, hv, Except.ok.injEq] at h
    exact hevents (congrArg Walk.events h)
  · have hwalk := hform h
    rw [hw, hv, Except.ok.injEq] at hwalk
    rw [hwalk]

/-- A whole number and a text of the same digits are one literal to the events, and so are an empty union and an
empty object; an array around the object is not. -/
theorem walk_eq_digits :
    let t : TypeTree := .object [⟨"a", true, .literal (.int 1)⟩, ⟨"b", false, .union []⟩]
    let u : TypeTree := .object [⟨"a", true, .literal (.str "1")⟩, ⟨"b", false, .object []⟩]
    let v : TypeTree := .object [⟨"a", true, .literal (.str "1")⟩, ⟨"b", false, .array (.object [])⟩]
    (t.RecordFree ∧ u.RecordFree ∧ v.RecordFree) ∧ ((∀ x ∈ t.places, x.type.PlainNamed) ∧
      (∀ x ∈ u.places, x.type.PlainNamed) ∧ ∀ x ∈ v.places, x.type.PlainNamed) ∧
      walk (.root "t") t = walk (.root "t") u ∧ walk (.root "t") u ≠ walk (.root "t") v := by
  intro t u v
  have ht : t.RecordFree := by decide
  have hu : u.RecordFree := by decide
  have hv : v.RecordFree := by decide
  have pt : ∀ x ∈ t.places, x.type.PlainNamed := by decide
  have pu : ∀ x ∈ u.places, x.type.PlainNamed := by decide
  have pv : ∀ x ∈ v.places, x.type.PlainNamed := by decide
  refine ⟨⟨ht, hu, hv⟩, ⟨pt, pu, pv⟩, (walk_eq_iff_shown_eq (.root "t") ht hu pt pu).1.2 rfl, fun h => ?_⟩
  have hform := (walk_eq_iff_shown_eq (.root "t") hu hv pu pv).1.1 h
  cases hform

end Diagram

end SchemaChart
