/-
Groups inside groups. In the events of a walk every group that is opened is closed with the same node, and
what is opened inside it is closed before it (`walk_balanced`). The lines of such events are nested by the
groups around them, whatever the lines say: two spaces for each of these groups and two more, and the line
that closes a group as the one that opened it (`nestedLines`).
-/
import SchemaChart.Proofs.Tables

namespace SchemaChart.Diagram

open TypeTree

/-! ## Balanced events -/

/-- Events in which groups are closed as they are opened, those inside others first. -/
inductive Balanced : List Event → Prop
  | nil : Balanced []
  | leaf {n : Node} {rest : List Event} : Balanced rest → Balanced (⟨.leaf, n⟩ :: rest)
  | group {n : Node} {inner rest : List Event} : Balanced inner → Balanced rest →
      Balanced (⟨.openGroup, n⟩ :: (inner ++ ⟨.closeGroup, n⟩ :: rest))

theorem Balanced.append {a b : List Event} (ha : Balanced a) (hb : Balanced b) : Balanced (a ++ b) := by
  induction ha with
  | nil => exact hb
  | leaf _ ih => exact .leaf ih
  | group hi _ _ ih =>
    rw [List.cons_append, List.append_assoc]
    exact .group hi ih

theorem Balanced.flatten {blocks : List (List Event)} (h : ∀ block ∈ blocks, Balanced block) :
    Balanced blocks.flatten := by
  induction blocks with
  | nil => exact .nil
  | cons block rest ih =>
    obtain ⟨hb, hr⟩ := List.forall_mem_cons.1 h
    exact hb.append (ih hr)

/-- Groups are closed with nodes that they were opened with, so every node is that of an entry. -/
theorem Balanced.node_mem {es : List Event} (h : Balanced es) : ∀ e ∈ es, e.node ∈ (entries es).map Event.node := by
  induction h with
  | nil => intro e he; cases he
  | @leaf n rest _ ih =>
    rw [show entries (⟨.leaf, n⟩ :: rest) = ⟨.leaf, n⟩ :: entries rest by simp [entries], List.forall_mem_cons]
    exact ⟨List.mem_cons_self .., fun e he => List.mem_cons_of_mem _ (ih e he)⟩
  | @group n inner rest _ _ ihi ihr =>
    rw [show entries (⟨.openGroup, n⟩ :: (inner ++ ⟨.closeGroup, n⟩ :: rest)) =
        ⟨.openGroup, n⟩ :: (entries inner ++ entries rest) by simp [entries],
      List.map_cons, List.map_append, List.forall_mem_cons, List.forall_mem_append, List.forall_mem_cons]
    refine ⟨List.mem_cons_self .., fun e he => ?_, List.mem_cons_self .., fun e he => ?_⟩
    · exact List.mem_cons_of_mem _ (List.mem_append_left _ (ihi e he))
    · exact List.mem_cons_of_mem _ (List.mem_append_right _ (ihr e he))

/-- One group around events. -/
def groupEvents (n : Node) (inner : List Event) : List Event :=
  ⟨.openGroup, n⟩ :: (inner ++ [⟨.closeGroup, n⟩])

theorem balanced_groupEvents (n : Node) {inner : List Event} (h : Balanced inner) : Balanced (groupEvents n inner) :=
  .group h .nil

/-- The events of a walk are balanced, and those of a type that can have children are one group. -/
theorem walk_balanced {p : Path} {t : TypeTree} {w : Walk} (h : walk p t = .ok w) : Balanced w.events ∧
    (t.isGroup = true → ∃ inner, Balanced inner ∧ w.events = groupEvents (placeNode p.names t) inner) := by
  refine walk_induction
    (P := fun p t w => Balanced w.events ∧
      (t.isGroup = true → ∃ inner, Balanced inner ∧ w.events = groupEvents (placeNode p.names t) inner))
    (Q := fun _ _ w => Balanced w.events) ?_ ?_ ?_ ?_ p t w h
  · intro p t hl _
    rw [entry, hl]
    exact ⟨.leaf .nil, fun hg => by cases hg⟩
  · intro p t inner hg hi
    rw [entry, hg]
    exact ⟨balanced_groupEvents _ hi, fun _ => ⟨inner.events, hi, rfl⟩⟩
  · intro p
    exact .nil
  · intro p x rest first others hf ho
    exact hf.1.append ho

/-- Every block of a drawing is one group. -/
theorem draw_groups {s : Schema} {d : Drawing} (h : draw s = .ok d) :
    ∀ block ∈ d.blocks, ∃ n inner, Balanced inner ∧ block = groupEvents n inner := by
  obtain ⟨ws, hws, rfl⟩ := draw_walks h
  rw [List.forall_mem_map]
  refine forall_mem_of_forall₂ hws fun t w hw => ?_
  obtain ⟨inner, hi, he⟩ := (walk_balanced hw.2).2 (isGroup_of_isRoot hw.1)
  exact ⟨_, inner, hi, he⟩

theorem draw_balanced {s : Schema} {d : Drawing} (h : draw s = .ok d) : ∀ block ∈ d.blocks, Balanced block := by
  intro block hb
  obtain ⟨n, inner, hi, rfl⟩ := draw_groups h block hb
  exact balanced_groupEvents n hi

/-! ## Nested lines -/

/-- So many spaces. -/
def spaces (n : Nat) : String := String.ofList (List.replicate n ' ')

theorem spaces_inj {m n : Nat} : spaces m = spaces n ↔ m = n := by
  refine ⟨fun h => ?_, fun h => congrArg spaces h⟩
  have hl := congrArg String.length h
  simpa [spaces] using hl

/-- The lines of events inside groups whose own lines are indented by the texts `above`, the innermost group
first. The line that closes a group is indented as the line of the group. -/
def nestedLines (above : List String) : List Event → List String
  | [] => []
  | e :: rest =>
    let here := spaces (2 * above.length + 2)
    match e.kind with
    | .openGroup => (here ++ e.line) :: nestedLines (here :: above) rest
    | .leaf => (here ++ e.line) :: nestedLines above rest
    | .closeGroup => (above.headD "" ++ e.line) :: nestedLines above.tail rest

/-- The lines of a drawing: those of the blocks nested by their groups, and the edges below the first line. -/
def Drawing.nested (d : Drawing) : List String :=
  declarationLine :: nestedLines [] d.blocks.flatten ++ d.edges.map fun e => spaces 2 ++ e.line

theorem length_nestedLines (es : List Event) (above : List String) : (nestedLines above es).length = es.length := by
  induction es generalizing above with
  | nil => rfl
  | cons e rest ih => rcases e with ⟨_ | _ | _, n⟩ <;> simp [nestedLines, ih]

/-- Behind balanced events the groups around are those that were around before. -/
theorem nestedLines_append {es : List Event} (h : Balanced es) (above : List String) (rest : List Event) :
    nestedLines above (es ++ rest) = nestedLines above es ++ nestedLines above rest := by
  induction h generalizing above rest with
  | nil => rfl
  | leaf _ ih => simp only [List.cons_append, nestedLines, ih]
  | group _ _ ihi ihr =>
    simp only [List.cons_append, List.append_assoc, nestedLines, ihi, ihr, List.tail_cons]

end SchemaChart.Diagram
