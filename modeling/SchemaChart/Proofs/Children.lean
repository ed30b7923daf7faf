/-
Types by their children. Objects, unions and arrays have named children, in order; nothing else has any.
Every type is reached from its children (`induction_children`), and the walk of a type with children is
the walks of them, one after the other, inside a group (`walk_group`). What a place shows is its entry:
the event that opens its group, or its leaf.
-/
import SchemaChart.Diagram.Walk

namespace SchemaChart

namespace TypeTree

/-! ## Children -/

/-- A type under the final name that it has in the type around it. -/
structure Child where
  name : String
  type : TypeTree

/-- A field as a child: one that may be left out has a question mark behind its name. -/
def fieldChild (f : Field TypeTree) : Child := ⟨if f.optional then f.name ++ "?" else f.name, f.type⟩

/-- The member of a union at a position as a child. -/
def memberChild (index : Nat) (type : TypeTree) : Child := ⟨"union." ++ toString index, type⟩

/-- The element of an array as a child. -/
def elementChild (type : TypeTree) : Child := ⟨"array.0", type⟩

/-- The children of a type, in order. -/
def children : TypeTree → List Child
  | .object fields => fields.map fieldChild
  | .union members => members.mapIdx memberChild
  | .array element => [elementChild element]
  | _ => []

/-- Whether a type is one that can have children. -/
def isGroup : TypeTree → Bool
  | .object _ => true
  | .union _ => true
  | .array _ => true
  | _ => false

def isRecord : TypeTree → Bool
  | .record _ _ => true
  | _ => false

theorem children_of_not_group {t : TypeTree} (h : t.isGroup = false) : t.children = [] := by
  cases t with
  | object | union | array => cases h
  | primitive | literal | reference | record => rfl

theorem sizeOf_child_lt {t : TypeTree} {x : Child} (h : x ∈ t.children) : sizeOf x.type < sizeOf t := by
  cases t with
  | object fields =>
    obtain ⟨f, hf, rfl⟩ := List.mem_map.1 h
    have hs := List.sizeOf_lt_of_mem hf
    rw [show sizeOf f = 1 + sizeOf f.name + sizeOf f.optional + sizeOf f.type by cases f; rfl] at hs
    simp only [fieldChild, object.sizeOf_spec]
    omega
  | union members =>
    obtain ⟨i, hi, rfl⟩ := List.mem_mapIdx.1 h
    have hs := List.sizeOf_lt_of_mem (List.getElem_mem hi)
    simp only [memberChild, union.sizeOf_spec]
    omega
  | array element =>
    obtain rfl : x = elementChild element := List.mem_singleton.1 h
    simp only [elementChild, array.sizeOf_spec]
    omega
  | primitive | literal | reference | record => cases h

/-- What holds of every type whose children it holds of holds of every type. -/
@[elab_as_elim]
theorem induction_children {P : TypeTree → Prop} (step : ∀ t, (∀ x ∈ t.children, P x.type) → P t)
    (t : TypeTree) : P t :=
  step t fun x _h => induction_children step x.type
termination_by sizeOf t
decreasing_by exact sizeOf_child_lt _h

/-- Types and lists of children together: what lists have when each of their children has it, and types when
their lists of children have it, every type has. -/
theorem mutual_induction {P : TypeTree → Prop} {Q : List Child → Prop} (step : ∀ t, Q t.children → P t) (nil : Q [])
    (cons : ∀ c rest, P c.type → Q rest → Q (c :: rest)) (t : TypeTree) : P t := by
  induction t using induction_children with
  | step t ih =>
    have all : ∀ cs : List Child, (∀ c ∈ cs, P c.type) → Q cs := by
      intro cs h
      induction cs with
      | nil => exact nil
      | cons c rest ihr =>
        obtain ⟨hc, hr⟩ := List.forall_mem_cons.1 h
        exact cons c rest hc (ihr hr)
    exact step t (all t.children ih)

/-! ## What is shown -/

/-- The text shown at a place of the given name: a group by its name alone, a leaf also by its type. -/
def label (name : String) : TypeTree → String
  | .primitive kind => name ++ ": " ++ kind.name
  | .literal value => name ++ ": literal '" ++ value.text ++ "'"
  | .reference table => name ++ ": id '" ++ table ++ "'"
  | _ => name

theorem label_of_isGroup {t : TypeTree} (h : t.isGroup = true) (name : String) : t.label name = name := by
  cases t with
  | object | union | array => rfl
  | primitive | literal | reference | record => cases h

/-- The table that a type refers to. -/
def linkedTable : TypeTree → Option String
  | .reference table => some table
  | _ => none

end TypeTree

namespace Diagram

open TypeTree

/-- The node at the place that a chain of names leads to. -/
def placeNode (names : List String) (t : TypeTree) : Node where
  path := joinNames names
  displayName := names.getLast?.getD ""
  kind := if t.isGroup then .group else .leaf
  label := t.label (names.getLast?.getD "")
  linkedTable := t.linkedTable

/-- The event of the place that a chain of names leads to: its group is opened, or it is a leaf. -/
def entry (names : List String) (t : TypeTree) : Event :=
  ⟨if t.isGroup then .openGroup else .leaf, placeNode names t⟩

/-- The edges that begin at the place that a chain of names leads to. -/
def placeEdges (names : List String) (t : TypeTree) : List Edge :=
  t.linkedTable.toList.map fun table => ⟨joinNames names, table⟩

@[simp] theorem getLast?_names (p : Path) : p.names.getLast? = some p.name := List.getLast?_concat

/-! ## The walk -/

/-- The walks of children below a path, one after the other. -/
def walkChildren (p : Path) : List Child → Except Error Walk
  | [] => .ok .empty
  | x :: rest => do
    let first ← walk (p.child x.name) x.type
    let others ← walkChildren p rest
    pure (first ++ others)

theorem walkFields_eq (p : Path) : ∀ fields, walkFields p fields = walkChildren p (fields.map fieldChild)
  | [] => rfl
  | ⟨name, optional, type⟩ :: rest => by
    simp only [walkFields, walkFields_eq p rest]
    rfl

theorem walkMembers_eq (p : Path) : ∀ index members,
    walkMembers p index members = walkChildren p (members.mapIdx fun i t => memberChild (index + i) t)
  | _, [] => rfl
  | index, type :: rest => by
    simp only [walkMembers, walkMembers_eq p (index + 1) rest, List.mapIdx_cons, Nat.add_right_comm index 1]
    rfl

/-- The walk of a type that can have children. -/
theorem walk_group {t : TypeTree} (h : t.isGroup = true) (p : Path) :
    walk p t = (walkChildren p t.children).map (groupWalk p) := by
  cases t with
  | object fields => simp only [walk, walkFields_eq, children]
  | union members => simp only [walk, walkMembers_eq, children, Nat.zero_add]
  | array element =>
    simp only [walk, children, walkChildren]
    rcases hw : walk (p.child elementName) element with e | w
    · have he : walk (p.child (elementChild element).name) (elementChild element).type = .error e := hw
      rw [he]; rfl
    · have he : walk (p.child (elementChild element).name) (elementChild element).type = .ok w := hw
      rw [he]
      show _ = Except.ok (groupWalk p (w ++ Walk.empty))
      rw [Walk.append_empty]; rfl
  | primitive | literal | reference | record => cases h

/-- The group at a path around a walk: the entry of its place, the walk, and the end of the group. -/
theorem groupWalk_eq {t : TypeTree} (h : t.isGroup = true) (p : Path) (inner : Walk) :
    groupWalk p inner =
      ⟨entry p.names t :: inner.events ++ [⟨.closeGroup, placeNode p.names t⟩], inner.edges⟩ := by
  have hnode : placeNode p.names t = groupNode p := by
    cases t with
    | object | union | array => simp [placeNode, groupNode, isGroup, label, TypeTree.linkedTable, Path.text]
    | primitive | literal | reference | record => cases h
  rw [entry, hnode, h]; rfl

theorem entry_leaf {t : TypeTree} (hg : t.isGroup = false) (p : Path) {what : String}
    (hl : t.label p.name = p.name ++ ": " ++ what) :
    entry p.names t = ⟨.leaf, leafNode p what t.linkedTable⟩ := by
  simp [entry, placeNode, leafNode, hg, hl, Path.text]

/-- The walk of a place without children. -/
theorem walk_leaf {t : TypeTree} (hg : t.isGroup = false) (hr : t.isRecord = false) (p : Path) :
    walk p t = .ok ⟨[entry p.names t], placeEdges p.names t⟩ := by
  -- the words between the name and what it is are one text in `label` and two in the walk
  have hjoin : ∀ a b c d : String, a ++ (b ++ c) ++ d = a ++ b ++ (c ++ d) := fun a b c d => by
    simp only [String.append_assoc]
  cases t with
  | primitive kind => rw [entry_leaf hg p rfl]; rfl
  | literal value =>
    have hl : (literal value).label p.name = p.name ++ ": " ++ s!"literal '{value.text}'" := by
      show p.name ++ (": " ++ "literal '") ++ value.text ++ "'" = _
      rw [hjoin, String.append_assoc]; rfl
    rw [entry_leaf hg p hl]; rfl
  | reference table =>
    have hl : (reference table).label p.name = p.name ++ ": " ++ s!"id '{table}'" := by
      show p.name ++ (": " ++ "id '") ++ table ++ "'" = _
      rw [hjoin, String.append_assoc]; rfl
    rw [entry_leaf hg p hl]; rfl
  | object | union | array => cases hg
  | record => cases hr

/-- A record stops the walk at its place. -/
theorem walk_record {t : TypeTree} (h : t.isRecord = true) (p : Path) :
    walk p t = .error (.unsupportedField (joinNames p.names) "record") := by
  cases t with
  | record key value => rfl
  | primitive | literal | reference | object | union | array => cases h

/-! ## Induction on walks -/

/-- A walk is that of a leaf, or that of a group around the walks of its children. -/
theorem walk_cases {p : Path} {t : TypeTree} {w : Walk} (h : walk p t = .ok w) :
    (t.isGroup = false ∧ t.isRecord = false ∧ w = ⟨[entry p.names t], placeEdges p.names t⟩) ∨
      (t.isGroup = true ∧ ∃ inner, walkChildren p t.children = .ok inner ∧
        w = ⟨entry p.names t :: inner.events ++ [⟨.closeGroup, placeNode p.names t⟩], inner.edges⟩) := by
  rcases hg : t.isGroup with _ | _
  · rcases hr : t.isRecord with _ | _
    · rw [walk_leaf hg hr] at h; cases h
      exact .inl ⟨rfl, rfl, rfl⟩
    · rw [walk_record hr] at h; cases h
  · rw [walk_group hg] at h
    rcases hi : walkChildren p t.children with e | inner
    · rw [hi] at h; cases h
    · rw [hi] at h; cases h
      rw [groupWalk_eq hg]
      exact .inr ⟨rfl, inner, rfl, rfl⟩

theorem walkChildren_cons {p : Path} {x : Child} {rest : List Child} {w : Walk}
    (h : walkChildren p (x :: rest) = .ok w) :
    ∃ first others, walk (p.child x.name) x.type = .ok first ∧ walkChildren p rest = .ok others ∧
      w = first ++ others := by
  rw [walkChildren] at h
  rcases h1 : walk (p.child x.name) x.type with e | first
  · rw [h1] at h; cases h
  · rw [h1] at h
    rcases h2 : walkChildren p rest with e | others
    · rw [h2] at h; cases h
    · rw [h2] at h; cases h
      exact ⟨first, others, rfl, rfl, rfl⟩

/-- What leaves have, and groups have as soon as their children have it together, every walk has. -/
theorem walk_induction {P : Path → TypeTree → Walk → Prop} {Q : Path → List Child → Walk → Prop}
    (leaf : ∀ p t, t.isGroup = false → t.isRecord = false →
      P p t ⟨[entry p.names t], placeEdges p.names t⟩)
    (group : ∀ p t inner, t.isGroup = true → Q p t.children inner → P p t
      ⟨entry p.names t :: inner.events ++ [⟨.closeGroup, placeNode p.names t⟩], inner.edges⟩)
    (nil : ∀ p, Q p [] .empty)
    (cons : ∀ p x rest first others, P (p.child x.name) x.type first → Q p rest others →
      Q p (x :: rest) (first ++ others))
    (p : Path) (t : TypeTree) (w : Walk) (h : walk p t = .ok w) : P p t w := by
  refine mutual_induction (P := fun t => ∀ p w, walk p t = .ok w → P p t w)
    (Q := fun cs => ∀ p w, walkChildren p cs = .ok w → Q p cs w) ?_ ?_ ?_ t p w h
  · intro t ih p w h
    rcases walk_cases h with ⟨hg, hr, rfl⟩ | ⟨hg, inner, hi, rfl⟩
    · exact leaf p t hg hr
    · exact group p t inner hg (ih p inner hi)
  · intro p w h
    cases h
    exact nil p
  · intro x rest hx hrest p w h
    obtain ⟨first, others, h1, h2, rfl⟩ := walkChildren_cons h
    exact cons p x rest first others (hx _ _ h1) (hrest _ _ h2)

end Diagram

end SchemaChart
