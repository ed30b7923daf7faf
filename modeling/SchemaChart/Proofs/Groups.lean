/-
Which event closes which group, and what lies directly in a group. Groups are told apart by the kinds of the
events alone: a group that is opened lasts until as many groups are closed as were opened from there on
(`Closes`), and an event lies directly in the innermost of the groups around it (`LiesDirectly`). The events
of a walk are one leaf or one group. Every group in them is closed once, with the node that it was opened
with, and the identifier of what lies directly in a group is that of the group, a dot and the own name
(`wellNested_walks`).
-/
import SchemaChart.Proofs.Names
import SchemaChart.Proofs.Nesting

namespace SchemaChart.Diagram

open TypeTree

/-! ## Lists taken apart -/

/-- An element stands at a position when so many elements stand before it. -/
theorem getElem?_eq_some_iff_append {α : Type} {l : List α} {i : Nat} {a : α} :
    l[i]? = some a ↔ ∃ before after, l = before ++ a :: after ∧ before.length = i := by
  constructor
  · intro h
    obtain ⟨hi, rfl⟩ := List.getElem?_eq_some_iff.1 h
    refine ⟨l.take i, l.drop (i + 1), ?_, List.length_take_of_le (Nat.le_of_lt hi)⟩
    rw [← List.drop_eq_getElem_cons hi, List.take_append_drop]
  · rintro ⟨before, after, rfl, rfl⟩
    simp

/-- Two elements of one list are the same one, or the second stands before or behind the first. -/
theorem split_cases {α : Type} {x y a b : List α} {c e : α} (h : x ++ c :: y = a ++ e :: b) :
    (a = x ∧ e = c ∧ b = y) ∨ (∃ u, x = a ++ e :: u ∧ b = u ++ c :: y) ∨ ∃ u, a = x ++ c :: u ∧ y = u ++ e :: b := by
  rcases List.append_eq_append_iff.1 h with ⟨u, rfl, hu⟩ | ⟨u, rfl, hu⟩
  · rcases List.cons_eq_append_iff.1 hu with ⟨rfl, hb⟩ | ⟨u, rfl, rfl⟩
    · cases hb
      exact .inl ⟨List.append_nil _, rfl, rfl⟩
    · exact .inr (.inr ⟨u, rfl, rfl⟩)
  · rcases List.cons_eq_append_iff.1 hu with ⟨rfl, hb⟩ | ⟨u, rfl, rfl⟩
    · cases hb
      exact .inl ⟨(List.append_nil _).symm, rfl, rfl⟩
    · exact .inr (.inl ⟨u, rfl, rfl⟩)

/-- What stands between two elements stands in the part of the list between them. -/
theorem split_between {α : Type} {before inner after : List α} {o c e : α} {k : Nat}
    (he : (before ++ o :: inner ++ c :: after)[k]? = some e) (hl : before.length < k)
    (hr : k < before.length + 1 + inner.length) :
    ∃ ahead behind, inner = ahead ++ e :: behind ∧ before.length + 1 + ahead.length = k := by
  obtain ⟨a, b, hs, rfl⟩ := getElem?_eq_some_iff_append.1 he
  rw [List.append_assoc] at hs
  rcases split_cases hs with ⟨rfl, -, -⟩ | ⟨u, rfl, -⟩ | ⟨u, rfl, hu⟩
  · omega
  · rw [List.length_append] at hl; omega
  · rcases split_cases hu with ⟨rfl, -, -⟩ | ⟨v, rfl, -⟩ | ⟨v, rfl, -⟩
    · simp at hr; omega
    · exact ⟨u, v, rfl, by simp; omega⟩
    · simp at hr; omega

/-! ## Which event closes which group -/

/-- How many more groups are open behind an event than before it. -/
def EventKind.step : EventKind → Int
  | .openGroup => 1
  | .leaf => 0
  | .closeGroup => -1

/-- How many more groups are open behind events than before them. -/
def leftOpen : List Event → Int
  | [] => 0
  | e :: rest => e.kind.step + leftOpen rest

@[simp] theorem leftOpen_nil : leftOpen [] = 0 := rfl

@[simp] theorem leftOpen_cons (e : Event) (rest : List Event) : leftOpen (e :: rest) = e.kind.step + leftOpen rest := rfl

@[simp] theorem leftOpen_append (a b : List Event) : leftOpen (a ++ b) = leftOpen a + leftOpen b := by
  induction a with
  | nil => simp
  | cons e rest ih => rw [List.cons_append, leftOpen_cons, ih, leftOpen_cons, Int.add_assoc]

/-- Events that close all groups that they open, and no others. -/
structure Paired (es : List Event) : Prop where
  total : leftOpen es = 0
  ahead : ∀ k, 0 ≤ leftOpen (es.take k)

/-- The group that is opened at position `i` is closed at position `j`: the events in between close all groups
that they open, and no others. -/
structure Closes (es : List Event) (i j : Nat) : Prop where
  opened : es[i]?.map Event.kind = some .openGroup
  closed : es[j]?.map Event.kind = some .closeGroup
  lt : i < j
  between : Paired ((es.take j).drop (i + 1))

/-- The event at position `k` lies in the group from `i` to `j`, and in no group that is opened later. -/
structure LiesDirectly (es : List Event) (i j k : Nat) : Prop where
  group : Closes es i j
  behind : i < k
  ahead : k < j
  innermost : ∀ i' j', Closes es i' j' → i' < k → k < j' → i' ≤ i

theorem Balanced.paired {es : List Event} (h : Balanced es) : Paired es := by
  induction h with
  | nil => exact ⟨rfl, fun k => by simp⟩
  | @leaf n rest _ ih =>
    refine ⟨by simpa [EventKind.step] using ih.total, fun k => ?_⟩
    cases k with
    | zero => simp
    | succ k => simpa [EventKind.step] using ih.ahead k
  | @group n inner rest _ _ ihi ihr =>
    refine ⟨by simp [EventKind.step, ihi.total, ihr.total], fun k => ?_⟩
    cases k with
    | zero => simp
    | succ k =>
      have hi := ihi.ahead k
      rw [List.take_succ_cons, leftOpen_cons, List.take_append, leftOpen_append]
      -- the first events end inside the group, or behind it
      rcases hk : k - inner.length with _ | l
      · simp [EventKind.step]; omega
      · have hr := ihr.ahead l
        rw [List.take_of_length_le (by omega), ihi.total]
        simp [EventKind.step]; omega

/-- Only one event closes the group around paired events. -/
theorem Paired.unique {x y a b : List Event} {m n : Node} (hx : Paired x) (ha : Paired a)
    (h : x ++ ⟨.closeGroup, m⟩ :: y = a ++ ⟨.closeGroup, n⟩ :: b) : a = x ∧ n = m ∧ b = y := by
  -- no paired events begin with paired events and the end of a group
  have short : ∀ {x u : List Event} {m : Node}, Paired x → ¬ Paired (x ++ ⟨.closeGroup, m⟩ :: u) := by
    intro x u m hx hp
    have hk := hp.ahead (x.length + 1)
    rw [List.take_append, leftOpen_append, List.take_of_length_le (by omega), hx.total, Nat.add_sub_cancel_left] at hk
    simp [EventKind.step] at hk
  rcases split_cases h with ⟨rfl, hn, rfl⟩ | ⟨u, rfl, rfl⟩ | ⟨u, rfl, rfl⟩
  · cases hn
    exact ⟨rfl, rfl, rfl⟩
  · exact absurd hx (short ha)
  · exact absurd ha (short hx)

/-- A group by the positions where it begins and ends, and by the parts of the list. -/
theorem closes_iff {es : List Event} {i j : Nat} : Closes es i j ↔
    ∃ before g inner m after, es = before ++ ⟨.openGroup, g⟩ :: inner ++ ⟨.closeGroup, m⟩ :: after ∧
      before.length = i ∧ i + 1 + inner.length = j ∧ Paired inner := by
  have inside : ∀ (before inner after : List Event) (o c : Event),
      ((before ++ o :: inner ++ c :: after).take (before ++ o :: inner).length).drop (before.length + 1) = inner := by
    intro before inner after o c
    rw [List.take_left]
    simp
  constructor
  · rintro ⟨ho, hc, hlt, hb⟩
    obtain ⟨⟨_, g⟩, ho, rfl⟩ := Option.map_eq_some_iff.1 ho
    obtain ⟨⟨_, m⟩, hc, rfl⟩ := Option.map_eq_some_iff.1 hc
    obtain ⟨front, after, rfl, rfl⟩ := getElem?_eq_some_iff_append.1 hc
    rw [List.getElem?_append_left hlt] at ho
    obtain ⟨before, inner, rfl, rfl⟩ := getElem?_eq_some_iff_append.1 ho
    rw [inside] at hb
    exact ⟨before, g, inner, m, after, rfl, rfl, by simp; omega, hb⟩
  · rintro ⟨before, g, inner, m, after, rfl, rfl, rfl, hp⟩
    have hj : before.length + 1 + inner.length = (before ++ (⟨.openGroup, g⟩ : Event) :: inner).length := by
      simp; omega
    rw [hj]
    refine ⟨by simp, by simp, by simp, ?_⟩
    rw [inside]
    exact hp

/-- A group is closed at one position only. -/
theorem Closes.unique {es : List Event} {i j k : Nat} (hj : Closes es i j) (hk : Closes es i k) : j = k := by
  obtain ⟨before, g, inner, m, after, rfl, rfl, rfl, hp⟩ := closes_iff.1 hj
  obtain ⟨before', g', inner', m', after', he, hl, rfl, hp'⟩ := closes_iff.1 hk
  rw [List.append_assoc, List.append_assoc] at he
  obtain ⟨-, he⟩ := List.append_inj he hl.symm
  rw [List.cons_append, List.cons_append] at he
  obtain ⟨rfl, -, -⟩ := hp.unique hp' (List.cons.inj he).2
  rfl

theorem closes_groupEvents (n : Node) {inner : List Event} (h : Paired inner) :
    Closes (groupEvents n inner) 0 ((groupEvents n inner).length - 1) :=
  closes_iff.2 ⟨[], n, inner, n, [], rfl, rfl, by simp [groupEvents]; omega, h⟩

/-! ## Well-nested events -/

/-- One leaf or one group, in which every group is closed once, with its own node. Nodes are of the kind that
their events ask for, and the identifier of what lies directly in a group goes on from that of the group. -/
structure WellNested (es : List Event) : Prop where
  unit : (∃ n, es = [⟨.leaf, n⟩]) ∨ Closes es 0 (es.length - 1)
  closed : ∀ i g, es[i]? = some ⟨.openGroup, g⟩ → ∃! j, Closes es i j
  node : ∀ i j, Closes es i j → es[i]?.map Event.node = es[j]?.map Event.node
  kind : ∀ e ∈ es, e.node.kind = if e.kind = .leaf then .leaf else .group
  path : ∀ i j k g e, LiesDirectly es i j k → es[i]? = some g → es[k]? = some e →
    e.node.path = g.node.path ++ "." ++ e.node.displayName

/-- A node that can lie directly in the group around it, if there is one. -/
def FitsIn (around : Option Node) (n : Node) : Prop := ∀ g ∈ around, n.path = g.path ++ "." ++ n.displayName

/-- Leaves that fit into the group around them, and groups that do and that hold such events themselves. -/
inductive Nested : Option Node → List Event → Prop
  | nil {around : Option Node} : Nested around []
  | leaf {around : Option Node} {n : Node} {rest : List Event} : n.kind = .leaf → FitsIn around n →
      Nested around rest → Nested around (⟨.leaf, n⟩ :: rest)
  | group {around : Option Node} {n : Node} {inner rest : List Event} : n.kind = .group → FitsIn around n →
      Nested (some n) inner → Nested around rest →
      Nested around (⟨.openGroup, n⟩ :: (inner ++ ⟨.closeGroup, n⟩ :: rest))

namespace Nested

variable {around : Option Node} {es : List Event}

theorem balanced (h : Nested around es) : Balanced es := by
  induction h with
  | nil => exact .nil
  | leaf _ _ _ ih => exact .leaf ih
  | group _ _ _ _ ihi ihr => exact .group ihi ihr

theorem append {a b : List Event} (ha : Nested around a) (hb : Nested around b) : Nested around (a ++ b) := by
  induction ha with
  | nil => exact hb
  | leaf hk hf _ ih => exact .leaf hk hf (ih hb)
  | group hk hf hi _ _ ih =>
    rw [List.cons_append, List.append_assoc]
    exact .group hk hf hi (ih hb)

theorem node_kind (h : Nested around es) : ∀ e ∈ es, e.node.kind = if e.kind = .leaf then .leaf else .group := by
  induction h with
  | nil => simp
  | leaf hk _ _ ih => simpa [hk] using ih
  | group hk _ _ _ ihi ihr =>
    simp only [List.mem_cons, List.mem_append]
    rintro e (rfl | he | rfl | he)
    · exact hk
    · exact ihi e he
    · exact hk
    · exact ihr e he

/-- Behind the beginning of a group stand events that fit into it, and then its end, with the same node. -/
theorem group_end (h : Nested around es) {before behind : List Event} {g : Node}
    (he : es = before ++ ⟨.openGroup, g⟩ :: behind) :
    ∃ inner after, behind = inner ++ ⟨.closeGroup, g⟩ :: after ∧ Nested (some g) inner := by
  induction h generalizing before behind with
  | nil => simp at he
  | leaf _ _ _ ih =>
    rcases List.cons_eq_append_iff.1 he with ⟨-, h⟩ | ⟨before, -, h⟩
    · cases h
    · exact ih h
  | @group around n inner rest _ _ hi _ ihi ihr =>
    rcases List.cons_eq_append_iff.1 he with ⟨-, h⟩ | ⟨before, -, h⟩
    · cases h
      exact ⟨inner, rest, rfl, hi⟩
    · rcases split_cases h with ⟨-, h, -⟩ | ⟨u, hu, rfl⟩ | ⟨u, -, hu⟩
      · cases h
      · obtain ⟨inner', after, rfl, hn⟩ := ihi hu
        exact ⟨inner', after ++ ⟨.closeGroup, n⟩ :: rest, by simp, hn⟩
      · exact ihr hu

/-- Every event fits into the group around all of them, or lies in a group among them. -/
theorem fitsIn_or (h : Nested around es) {ahead behind : List Event} {e : Event} (he : es = ahead ++ e :: behind) :
    FitsIn around e.node ∨ ∃ before n first last m after, ahead = before ++ ⟨.openGroup, n⟩ :: first ∧
      behind = last ++ ⟨.closeGroup, m⟩ :: after ∧ Paired (first ++ e :: last) := by
  induction h generalizing ahead behind with
  | nil => simp at he
  | @leaf around n rest _ hf _ ih =>
    rcases List.cons_eq_append_iff.1 he with ⟨-, h⟩ | ⟨ahead, rfl, h⟩
    · cases h
      exact .inl hf
    · rcases ih h with h | ⟨before, n', first, last, m, after, rfl, rfl, hp⟩
      · exact .inl h
      · exact .inr ⟨⟨.leaf, n⟩ :: before, n', first, last, m, after, rfl, rfl, hp⟩
  | @group around n inner rest _ hf hi _ ihi ihr =>
    rcases List.cons_eq_append_iff.1 he with ⟨-, h⟩ | ⟨ahead, rfl, h⟩
    · cases h
      exact .inl hf
    · -- the event is the end of the first group, or stands in it, or behind it
      rcases split_cases h with ⟨-, rfl, -⟩ | ⟨u, rfl, rfl⟩ | ⟨u, rfl, hu⟩
      · exact .inl hf
      · exact .inr ⟨[], n, ahead, u, n, rest, rfl, rfl, hi.balanced.paired⟩
      · rcases ihr hu with h | ⟨before, n', first, last, m, after, rfl, rfl, hp⟩
        · exact .inl h
        · exact .inr ⟨⟨.openGroup, n⟩ :: (inner ++ ⟨.closeGroup, n⟩ :: before), n', first, last, m, after, by simp,
            rfl, hp⟩

/-- In nested events a group is closed with its own node, behind events that fit into it. -/
theorem closes_iff (h : Nested around es) {i j : Nat} : Closes es i j ↔
    ∃ before g inner after, es = before ++ ⟨.openGroup, g⟩ :: inner ++ ⟨.closeGroup, g⟩ :: after ∧
      before.length = i ∧ i + 1 + inner.length = j ∧ Nested (some g) inner := by
  rw [Diagram.closes_iff]
  constructor
  · rintro ⟨before, g, inner, m, after, rfl, hi, hj, hp⟩
    obtain ⟨inner', after', he, hn⟩ := h.group_end (List.append_assoc ..)
    obtain ⟨rfl, hm, rfl⟩ := hp.unique hn.balanced.paired he
    cases hm
    exact ⟨before, g, inner', after', rfl, hi, hj, hn⟩
  · rintro ⟨before, g, inner, after, he, hi, hj, hn⟩
    exact ⟨before, g, inner, g, after, he, hi, hj, hn.balanced.paired⟩

theorem existsUnique_closes (h : Nested around es) {i : Nat} {g : Node} (hi : es[i]? = some ⟨.openGroup, g⟩) :
    ∃! j, Closes es i j := by
  obtain ⟨before, behind, he, hl⟩ := getElem?_eq_some_iff_append.1 hi
  obtain ⟨inner, after, rfl, hn⟩ := h.group_end he
  have hc : Closes es i (i + 1 + inner.length) :=
    h.closes_iff.2 ⟨before, g, inner, after, by simpa using he, hl, rfl, hn⟩
  exact ⟨_, hc, fun j hj => hj.unique hc⟩

theorem node_eq (h : Nested around es) {i j : Nat} (hc : Closes es i j) :
    es[i]?.map Event.node = es[j]?.map Event.node := by
  obtain ⟨before, g, inner, after, rfl, rfl, rfl, -⟩ := h.closes_iff.1 hc
  have hj : before.length + 1 + inner.length = (before ++ (⟨.openGroup, g⟩ : Event) :: inner).length := by
    simp; omega
  rw [hj]
  simp

theorem path_eq (h : Nested around es) {i j k : Nat} {g e : Event} (hd : LiesDirectly es i j k)
    (hg : es[i]? = some g) (he : es[k]? = some e) : e.node.path = g.node.path ++ "." ++ e.node.displayName := by
  obtain ⟨hc, hik, hkj, hmost⟩ := hd
  obtain ⟨before, n, inner, after, rfl, rfl, rfl, hn⟩ := h.closes_iff.1 hc
  obtain ⟨ahead, behind, hinner, hk⟩ := split_between he hik hkj
  rcases hn.fitsIn_or hinner with hf | ⟨before', n', first, last, m, after', rfl, rfl, hp⟩
  · have hg : g = ⟨.openGroup, n⟩ := by simpa using hg.symm
    rw [hg]
    exact hf n rfl
  · -- a group among the events in the group is opened later, and the event would lie in it
    have hdeep : Closes (before ++ ⟨.openGroup, n⟩ :: inner ++ ⟨.closeGroup, n⟩ :: after)
        (before.length + 1 + before'.length) (before.length + 1 + before'.length + 1 + (first ++ e :: last).length) :=
      Diagram.closes_iff.2 ⟨before ++ ⟨.openGroup, n⟩ :: before', n', first ++ e :: last, m,
        after' ++ ⟨.closeGroup, n⟩ :: after, by simp [hinner], by simp; omega, rfl, hp⟩
    have hle := hmost _ _ hdeep (by simp at hk; omega) (by simp at hk ⊢; omega)
    omega

end Nested

/-! ## Walks and drawings -/

theorem fitsIn_child {g : Node} {p : Path} (hg : g.path = p.text) (name : String) (t : TypeTree) :
    FitsIn (some g) (placeNode (p.child name).names t) := by
  have hpath : joinNames (p.names ++ [name]) = p.text ++ "." ++ name := by
    rw [joinNames_append (by simp [Path.names]), dotted, dotted, String.append_empty, ← String.append_assoc]
    rfl
  rintro _ ⟨⟩
  simp [placeNode, hpath, hg]

/-- The events of a walk are nested, in any group that the place of the walk fits into. -/
theorem walk_nested {p : Path} {t : TypeTree} {w : Walk} (h : walk p t = .ok w) :
    ∀ around, FitsIn around (placeNode p.names t) → Nested around w.events := by
  refine walk_induction (P := fun p t w => ∀ around, FitsIn around (placeNode p.names t) → Nested around w.events)
    (Q := fun p _ w => ∀ g : Node, g.path = p.text → Nested (some g) w.events) ?_ ?_ ?_ ?_ p t w h
  · intro p t hg _ around hf
    rw [entry, hg]
    exact .leaf (by rw [placeNode, hg]; rfl) hf .nil
  · intro p t inner hg hi around hf
    rw [entry, hg]
    exact .group (by rw [placeNode, hg]; rfl) hf (hi _ rfl) .nil
  · intro p g _
    exact .nil
  · intro p x rest first others hx ho g hp
    exact (hx _ (fitsIn_child hp _ _)).append (ho g hp)

theorem wellNested_of_walk {p : Path} {t : TypeTree} {w : Walk} (h : walk p t = .ok w) : WellNested w.events := by
  have hn : Nested none w.events := walk_nested h none fun g hg => by cases hg
  refine ⟨?_, fun i g => hn.existsUnique_closes, fun i j => hn.node_eq, hn.node_kind, fun i j k g e => hn.path_eq⟩
  rcases hg : t.isGroup with _ | _
  · rcases hr : t.isRecord with _ | _
    · rw [walk_leaf hg hr] at h; cases h
      rw [entry, hg]
      exact .inl ⟨_, rfl⟩
    · rw [walk_record hr] at h; cases h
  · obtain ⟨inner, hi, he⟩ := (walk_balanced h).2 hg
    rw [he]
    exact .inr (closes_groupEvents _ hi.paired)

theorem walk_of_walkAt {names : List String} {t : TypeTree} {w : Walk} (h : walkAt names t = .ok w) :
    ∃ p, walk p t = .ok w := by
  unfold walkAt at h
  split at h
  · exact ⟨_, h⟩
  · cases h

/-- The events of a walk are well nested. So is every block of a drawing, which is one group, of the identifier
of its table. -/
theorem wellNested_walks :
    (∀ names t w, walkAt names t = .ok w → WellNested w.events) ∧
      ∀ s d, draw s = .ok d → List.Forall₂ (fun t block => WellNested block ∧ Closes block 0 (block.length - 1) ∧
        block.head?.map (fun e => e.node.path) = some t.name) s.tables d.blocks := by
  constructor
  · intro names t w h
    obtain ⟨p, hp⟩ := walk_of_walkAt h
    exact wellNested_of_walk hp
  · intro s d h
    obtain ⟨ws, hws, rfl⟩ := draw_walks h
    rw [List.forall₂_map_right_iff]
    refine hws.imp fun t w ⟨hr, hw⟩ => ?_
    obtain ⟨inner, hi, he⟩ := (walk_balanced hw).2 (isGroup_of_isRoot hr)
    refine ⟨wellNested_of_walk hw, ?_, ?_⟩
    · rw [he]
      exact closes_groupEvents _ hi.paired
    · rw [he]
      rfl

/-- A field that may be left out, and in it an array of unions with an empty object. -/
theorem wellNested_optional_array :
    let t : TypeTree := .object [⟨"a", true, .array (.union [.reference "t", .object []])⟩]
    (∃ w, walkAt ["s", "t"] t = .ok w ∧ WellNested w.events) ∧
      ∃ block edges, draw ⟨[⟨"t", t⟩]⟩ = .ok ⟨[block], edges⟩ ∧ WellNested block ∧ Closes block 0 8 := by
  intro t
  have h := wellNested_walks.2 ⟨[⟨"t", t⟩]⟩ _ rfl
  obtain ⟨⟨hn, hc, -⟩, -⟩ := List.forall₂_cons.1 h
  exact ⟨⟨_, rfl, wellNested_walks.1 ["s", "t"] t _ rfl⟩, _, _, rfl, hn, hc⟩

end SchemaChart.Diagram
