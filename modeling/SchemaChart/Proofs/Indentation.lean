/-
How far indented lines are from nested ones. The depth of a line is counted over the texts of the lines
before it, each of which rises by its `rise`; the groups are not known there. The lines that open and close
a group cancel out, so the count is that of the groups until a leaf or an edge opens a level. The text of
both begins with the name of their table, so this happens exactly below a table whose own name begins like
a line that opens a level and that has a leaf (`indentLines_eq_nested_iff`).
-/
import SchemaChart.Proofs.Names
import SchemaChart.Proofs.Nesting

namespace SchemaChart.Diagram

open TypeTree

/-! ## The depth behind lines -/

/-- How much deeper the lines behind a line lie than the line before it. -/
def rise (line : String) : Int :=
  if Text.isBlankText line then 0 else (if opensLevel line then 1 else 0) - if line = endLine then 1 else 0

/-- How much deeper it is behind some lines than before them. -/
def climb : List String → Int
  | [] => 0
  | line :: rest => rise line + climb rest

@[simp] theorem climb_nil : climb [] = 0 := rfl

@[simp] theorem climb_cons (line : String) (rest : List String) : climb (line :: rest) = rise line + climb rest := rfl

theorem climb_append (a b : List String) : climb (a ++ b) = climb a + climb b := by
  induction a with
  | nil => simp
  | cons line rest ih => rw [List.cons_append, climb_cons, ih, climb_cons, Int.add_assoc]

theorem indentFrom_cons {line : String} (h : Text.isBlankText line = false) (depth : Int) (rest : List String) :
    indentFrom depth (line :: rest) =
      (indentation (if line = endLine then depth - 1 else depth) ++ line) :: indentFrom (depth + rise line) rest := by
  have hd : (if opensLevel line then (if line = endLine then depth - 1 else depth) + 1
      else if line = endLine then depth - 1 else depth) = depth + rise line := by
    rw [rise, h]
    split <;> split <;> (simp; try omega)
  rw [indentFrom, h]
  simp [hd]

theorem indentFrom_append (a b : List String) (depth : Int) :
    indentFrom depth (a ++ b) = indentFrom depth a ++ indentFrom (depth + climb a) b := by
  induction a generalizing depth with
  | nil => simp [indentFrom]
  | cons line rest ih =>
    rcases hb : Text.isBlankText line with _ | _
    · rw [List.cons_append, indentFrom_cons hb, indentFrom_cons hb, ih, climb_cons, Int.add_assoc, List.cons_append]
    · simp [indentFrom, hb, ih, rise]

/-! ## Lines of text -/

theorem isBlankText_append (a b : String) :
    Text.isBlankText (a ++ b) = (Text.isBlankText a && Text.isBlankText b) := by
  simp [Text.isBlankText]

/-- A line that is kept and does not close a level. -/
structure Shown (line : String) : Prop where
  kept : Text.isBlankText line = false
  inside : line ≠ endLine

/-- A text is shown for a part that is not blank and has a letter the line that closes a level lacks. -/
theorem shown_of_part (a part b : String) {c : Char} (hb : Text.isBlankText part = false) (hc : c ∈ part.toList)
    (hn : c ∉ endLine.toList) : Shown (a ++ part ++ b) := by
  refine ⟨by simp [isBlankText_append, hb], fun h => ?_⟩
  rw [← h] at hn
  simp [hc] at hn

theorem shown_leaf (n : Node) : Shown (Event.line ⟨.leaf, n⟩) := by
  have := shown_of_part n.path "[" (n.label ++ "]") (c := '[') (by decide) (by decide) (by decide)
  rw [← String.append_assoc] at this
  exact this

theorem shown_group (n : Node) : Shown (Event.line ⟨.openGroup, n⟩) := by
  have := shown_of_part "" "subgraph " (n.path ++ "[" ++ n.label ++ "]") (c := 's') (by decide) (by decide) (by decide)
  rw [String.empty_append, ← String.append_assoc, ← String.append_assoc, ← String.append_assoc] at this
  exact this

theorem shown_edge (e : Edge) : Shown e.line :=
  shown_of_part e.source "-->" e.target (c := '>') (by decide) (by decide) (by decide)

/-- The line of a leaf. -/
theorem line_entry_leaf (names : List String) {t : TypeTree} (hg : t.isGroup = false) :
    (entry names t).line = joinNames names ++ "[" ++ t.label (names.getLast?.getD "") ++ "]" := by
  rw [entry, hg]
  rfl

/-- The line that opens a group. -/
theorem line_entry_group (names : List String) {t : TypeTree} (hg : t.isGroup = true) :
    (entry names t).line = "subgraph " ++ joinNames names ++ "[" ++ names.getLast?.getD "" ++ "]" := by
  rw [← label_of_isGroup hg (names.getLast?.getD ""), entry, hg]
  rfl

theorem Shown.rise {line : String} (h : Shown line) : rise line = if opensLevel line then 1 else 0 := by
  simp [Diagram.rise, h.kept, h.inside]

theorem Shown.indentFrom {line : String} (h : Shown line) (depth : Int) (rest : List String) :
    indentFrom depth (line :: rest) =
      (indentation depth ++ line) :: indentFrom (depth + if opensLevel line then 1 else 0) rest := by
  rw [indentFrom_cons h.kept, if_neg h.inside, h.rise]

theorem opensLevel_group (n : Node) : opensLevel (Event.line ⟨.openGroup, n⟩) = true := by
  simp [opensLevel, openers, Event.line, String.toList_append]

theorem rise_group (n : Node) : rise (Event.line ⟨.openGroup, n⟩) = 1 := by
  rw [(shown_group n).rise, opensLevel_group]; rfl

@[simp] theorem line_closeGroup (n : Node) : Event.line ⟨.closeGroup, n⟩ = endLine := rfl

theorem rise_endLine : rise endLine = -1 := by decide

theorem indentFrom_endLine (depth : Int) (rest : List String) :
    indentFrom depth (endLine :: rest) = (indentation (depth - 1) ++ endLine) :: indentFrom (depth - 1) rest := by
  rw [indentFrom_cons (by decide), if_pos rfl, rise_endLine]
  rfl

theorem indentation_spaces (n : Nat) : indentation (n + 1) = spaces (2 * n + 2) := by
  have : (n + 1 : Int).toNat = n + 1 := by omega
  rw [indentation, this, spaces]
  rfl

theorem eq_of_mem_indentation {depth : Int} {c : Char} (h : c ∈ (indentation depth).toList) : c = ' ' := by
  rw [indentation, String.toList_ofList] at h
  exact List.eq_of_mem_replicate h

/-! ## Balanced events -/

/-- A leaf whose line opens a level. -/
def isRising (e : Event) : Bool := e.kind = .leaf && opensLevel e.line

/-- Behind balanced events the depth has risen once for each leaf whose line opens a level. -/
theorem climb_balanced {es : List Event} (h : Balanced es) : climb (es.map Event.line) = es.countP isRising := by
  induction h with
  | nil => rfl
  | @leaf n rest _ ih =>
    rw [List.map_cons, climb_cons, ih, (shown_leaf n).rise, List.countP_cons, Int.add_comm]
    rcases ho : opensLevel (Event.line ⟨.leaf, n⟩) with _ | _ <;> simp [isRising, ho]
  | @group n inner rest _ _ ihi ihr =>
    rw [List.map_cons, List.map_append, List.map_cons, climb_cons, climb_append, climb_cons, ihi, ihr, rise_group,
      line_closeGroup, rise_endLine, List.countP_cons, List.countP_append, List.countP_cons]
    simp [isRising]
    omega

theorem climb_of_not_isRising {es : List Event} (h : Balanced es) (hr : ∀ e ∈ es, isRising e = false) :
    climb (es.map Event.line) = 0 := by
  rw [climb_balanced h, List.countP_eq_zero.2 fun e he => by simp [hr e he]]; rfl

/-- As long as no leaf opens a level, the lines of balanced events are indented by their groups. -/
theorem indentFrom_balanced {es : List Event} (h : Balanced es) (hr : ∀ e ∈ es, isRising e = false)
    (above : List String) : indentFrom (above.length + 1) (es.map Event.line) = nestedLines above es := by
  induction h generalizing above with
  | nil => rfl
  | @leaf n rest _ ih =>
    obtain ⟨h1, h2⟩ := List.forall_mem_cons.1 hr
    have h1 : opensLevel (Event.line ⟨.leaf, n⟩) = false := h1
    rw [List.map_cons, (shown_leaf n).indentFrom, h1, indentation_spaces, nestedLines]
    simp [ih h2]
  | @group n inner rest hi _ ihi ihr =>
    obtain ⟨-, h2⟩ := List.forall_mem_cons.1 hr
    obtain ⟨hin, h3⟩ := List.forall_mem_append.1 h2
    obtain ⟨-, hrest⟩ := List.forall_mem_cons.1 h3
    have hclimb := climb_of_not_isRising hi hin
    have hinner := ihi hin (spaces (2 * above.length + 2) :: above)
    rw [List.length_cons, Int.natCast_add] at hinner
    rw [List.map_cons, List.map_append, List.map_cons, (shown_group n).indentFrom, opensLevel_group, if_pos rfl,
      indentFrom_append, hclimb, Int.add_zero, line_closeGroup, indentFrom_endLine, Int.add_sub_cancel,
      indentation_spaces, ihr hrest above, nestedLines, nestedLines_append hi]
    simp [nestedLines, ← hinner]

/-- The line that closes the last group moves with every leaf before it whose line opens a level. -/
theorem getLast?_indentFrom_group {a inner : List Event} (ha : Balanced a) (hi : Balanced inner) (n : Node) :
    (indentFrom 1 ((a ++ groupEvents n inner).map Event.line)).getLast? =
      some (spaces (2 * (a ++ groupEvents n inner).countP isRising + 2) ++ endLine) := by
  have hclimb := climb_balanced (ha.append (balanced_groupEvents n hi))
  -- the last line takes back the level that the group itself has opened
  have hsplit : (a ++ groupEvents n inner).map Event.line =
      (a ++ ⟨.openGroup, n⟩ :: inner).map Event.line ++ [endLine] := by
    simp [groupEvents]
  have hdepth : 1 + climb ((a ++ ⟨.openGroup, n⟩ :: inner).map Event.line) - 1 =
      (a ++ groupEvents n inner).countP isRising + 1 := by
    rw [hsplit, climb_append, climb_cons, rise_endLine, climb_nil] at hclimb
    omega
  rw [hsplit, indentFrom_append, indentFrom_endLine, hdepth, indentation_spaces, indentFrom, List.getLast?_concat]

theorem getLast?_nestedLines_group {a inner : List Event} (ha : Balanced a) (hi : Balanced inner) (n : Node) :
    (nestedLines [] (a ++ groupEvents n inner)).getLast? = some (spaces 2 ++ endLine) := by
  have hgroup : nestedLines [] (groupEvents n inner) =
      (spaces 2 ++ Event.line ⟨.openGroup, n⟩) :: nestedLines [spaces 2] inner ++ [spaces 2 ++ endLine] := by
    rw [groupEvents, nestedLines, nestedLines_append hi]; rfl
  rw [nestedLines_append ha, hgroup, ← List.append_assoc, List.getLast?_concat]

/-- The lines of blocks are indented by their groups exactly when no leaf in them opens a level. -/
theorem indentFrom_blocks_iff {blocks : List (List Event)}
    (h : ∀ block ∈ blocks, ∃ n inner, Balanced inner ∧ block = groupEvents n inner) :
    indentFrom 1 (blocks.flatten.map Event.line) = nestedLines [] blocks.flatten ↔
      ∀ e ∈ blocks.flatten, isRising e = false := by
  have hb : ∀ block ∈ blocks, Balanced block := by
    intro block hm
    obtain ⟨n, inner, hi, rfl⟩ := h block hm
    exact balanced_groupEvents n hi
  constructor
  · intro he
    rcases List.eq_nil_or_concat blocks with rfl | ⟨front, block, rfl⟩
    · intro e hm; cases hm
    · rw [List.concat_eq_append] at *
      obtain ⟨n, inner, hi, rfl⟩ := h block (by simp)
      have ha : Balanced front.flatten := .flatten fun b hm => hb b (List.mem_append_left _ hm)
      rw [List.flatten_append, List.flatten_singleton] at *
      -- the last line is enough: it has moved with all leaves at once
      have hlast := congrArg List.getLast? he
      rw [getLast?_indentFrom_group ha hi, getLast?_nestedLines_group ha hi, Option.some_inj,
        String.append_left_inj, spaces_inj] at hlast
      have hzero : (front.flatten ++ groupEvents n inner).countP isRising = 0 := by omega
      intro e hm
      simpa using List.countP_eq_zero.1 hzero e hm
  · intro hr
    exact indentFrom_balanced (.flatten hb) hr []

/-! ## Texts that begin with the name of a table -/

theorem isPrefixOf_append_cons {w : List Char} {c : Char} (h : c ∉ w) (a b : List Char) :
    w.isPrefixOf (a ++ c :: b) = w.isPrefixOf a := by
  induction w generalizing a with
  | nil => simp
  | cons x w ih =>
    obtain ⟨hx, hw⟩ := not_or.1 (mt List.mem_cons.2 h)
    cases a with
    | nil => simp [List.isPrefixOf, Ne.symm hx]
    | cons y a => simp [List.isPrefixOf, ih hw]

/-- Whether a text opens a level is decided before the first dot in it. -/
theorem opensLevel_joinNames (name : String) {chain : List String} (h : chain ≠ []) (after : String) :
    opensLevel (joinNames (name :: chain) ++ after) = opensLevel name := by
  cases chain with
  | nil => exact absurd rfl h
  | cons next chain =>
    rw [joinNames_cons, dotted]
    simp only [opensLevel, openers, String.toList_append, List.append_assoc, List.any_cons, List.any_nil]
    rw [show ".".toList = ['.'] from rfl, List.singleton_append, isPrefixOf_append_cons (by decide),
      isPrefixOf_append_cons (by decide)]

theorem chain_ne_nil {t : TypeTree} (hg : t.isGroup = true) {x : Place} (hx : x ∈ t.places)
    (hl : x.type.isGroup = false) : x.chain ≠ [] := by
  rw [places_eq, List.mem_cons, mem_placesOfChildren] at hx
  rcases hx with rfl | ⟨i, c, y, -, -, rfl⟩
  · have hg' : t.isGroup = false := hl
    rw [hg] at hg'; cases hg'
  · exact List.cons_ne_nil c.name y.chain

/-! ## Tables -/

/-- A table whose lines keep to the level they are on: its name does not begin like a line that opens a
level, or there is no leaf in it. -/
def KeepsLevel (t : Table) : Prop := opensLevel t.name = true → ∀ x ∈ t.type.places, x.type.isGroup = true

instance (t : Table) : Decidable (KeepsLevel t) := inferInstanceAs (Decidable (_ = true → ∀ x ∈ t.type.places, _))

theorem KeepsLevel.opensLevel {t : Table} (h : KeepsLevel t) {x : Place} (hx : x ∈ t.type.places)
    (hl : x.type.isGroup = false) : opensLevel t.name = false := by
  rcases ho : Diagram.opensLevel t.name with _ | _
  · rfl
  · rw [h ho x hx] at hl; cases hl

theorem isRising_entry (name : String) {chain : List String} (h : chain ≠ []) {t : TypeTree}
    (hl : t.isGroup = false) : isRising (entry (name :: chain) t) = opensLevel name := by
  rw [isRising, line_entry_leaf _ hl, String.append_assoc, String.append_assoc, opensLevel_joinNames name h, entry, hl]
  rfl

theorem not_isRising_iff {t : Table} {w : Walk} (hg : t.type.isGroup = true)
    (h : walk (.root t.name) t.type = .ok w) : KeepsLevel t ↔ ∀ e ∈ w.events, isRising e = false := by
  -- only leaves rise, and these are among the entries
  have hentries : (∀ e ∈ w.events, isRising e = false) ↔ ∀ e ∈ entries w.events, isRising e = false := by
    simp only [entries, List.mem_filter]
    refine ⟨fun h e he => h e he.1, fun h e he => ?_⟩
    rcases e with ⟨_ | _ | _, n⟩
    · rfl
    · exact h _ ⟨he, rfl⟩
    · rfl
  rw [hentries, (walk_places h).1, List.forall_mem_map]
  constructor
  · intro hk x hx
    rcases hl : x.type.isGroup with _ | _
    · rw [Path.names_root, List.singleton_append, isRising_entry _ (chain_ne_nil hg hx hl) hl, hk.opensLevel hx hl]
    · rw [entry, hl]; rfl
  · intro hr ho x hx
    rcases hl : x.type.isGroup with _ | _
    · have hn := hr x hx
      rw [Path.names_root, List.singleton_append, isRising_entry _ (chain_ne_nil hg hx hl) hl, ho] at hn
      cases hn
    · rfl

theorem opensLevel_edge {t : Table} {w : Walk} (hg : t.type.isGroup = true)
    (h : walk (.root t.name) t.type = .ok w) (hk : KeepsLevel t) : ∀ e ∈ w.edges, opensLevel e.line = false := by
  rw [(walk_places h).2]
  intro e he
  obtain ⟨x, hx, he⟩ := List.mem_flatMap.1 he
  obtain ⟨target, ht, rfl⟩ := List.mem_map.1 he
  have hl : x.type.isGroup = false := by
    cases hty : x.type with
    | primitive | literal | reference | record => rfl
    | object | union | array => rw [hty] at ht; cases ht
  rw [Edge.line, String.append_assoc, Path.names_root, List.singleton_append,
    opensLevel_joinNames _ (chain_ne_nil hg hx hl), hk.opensLevel hx hl]

theorem indentFrom_edges {es : List Edge} (h : ∀ e ∈ es, opensLevel e.line = false) :
    indentFrom 1 (es.map Edge.line) = es.map fun e => spaces 2 ++ e.line := by
  induction es with
  | nil => rfl
  | cons e rest ih =>
    obtain ⟨he, hr⟩ := List.forall_mem_cons.1 h
    rw [List.map_cons, List.map_cons, (shown_edge e).indentFrom, he]
    exact congrArg _ (ih hr)

/-! ## Drawings -/

theorem keepsLevel_iff {s : Schema} {d : Drawing} (h : draw s = .ok d) :
    (∀ t ∈ s.tables, KeepsLevel t) ↔ ∀ e ∈ d.blocks.flatten, isRising e = false := by
  obtain ⟨ws, hws, rfl⟩ := draw_walks h
  rw [List.forall_mem_flatten, List.forall_mem_map]
  exact forall_mem_iff_of_forall₂ hws fun t w hw => not_isRising_iff (isGroup_of_isRoot hw.1) hw.2

theorem opensLevel_edges {s : Schema} {d : Drawing} (h : draw s = .ok d) (hk : ∀ t ∈ s.tables, KeepsLevel t) :
    ∀ e ∈ d.edges, opensLevel e.line = false := by
  obtain ⟨ws, hws, rfl⟩ := draw_walks h
  have hall := (List.forall₂_and_left _ _).2 ⟨hk, hws⟩
  rw [List.forall_mem_flatten, List.forall_mem_map]
  exact forall_mem_of_forall₂ hall fun t w hw => opensLevel_edge (isGroup_of_isRoot hw.2.1) hw.2.2 hw.1

theorem indentLines_lines (d : Drawing) : indentLines d.lines =
    declarationLine :: indentFrom 1 (d.blocks.flatten.map Event.line) ++
      indentFrom (1 + climb (d.blocks.flatten.map Event.line)) (d.edges.map Edge.line) := by
  have hd : indentation 0 ++ declarationLine = declarationLine := by decide
  rw [indentLines, Drawing.lines, List.cons_append, indentFrom_cons (by decide), if_neg (by decide), hd,
    show rise declarationLine = 1 by decide, indentFrom_append]
  rfl

theorem kept_events (es : List Event) : ∀ line ∈ es.map Event.line, Text.isBlankText line = false := by
  rw [List.forall_mem_map]
  rintro ⟨_ | _ | _, n⟩ _
  · exact (shown_group n).kept
  · exact (shown_leaf n).kept
  · show Text.isBlankText endLine = false
    decide

/-- No line of a drawing is left out. -/
theorem kept_lines (d : Drawing) : ∀ line ∈ d.lines, Text.isBlankText line = false := by
  rw [Drawing.lines, List.cons_append, List.forall_mem_cons, List.forall_mem_append]
  exact ⟨by decide, kept_events _, List.forall_mem_map.2 fun e _ => (shown_edge e).kept⟩

theorem length_indentFrom {lines : List String} (h : ∀ line ∈ lines, Text.isBlankText line = false) (depth : Int) :
    (indentFrom depth lines).length = lines.length := by
  induction lines generalizing depth with
  | nil => rfl
  | cons line rest ih =>
    obtain ⟨hl, hr⟩ := List.forall_mem_cons.1 h
    rw [indentFrom_cons hl, List.length_cons, ih hr, List.length_cons]

theorem indentLines_nested_iff {s : Schema} {d : Drawing} (h : draw s = .ok d) :
    indentLines d.lines = d.nested ↔ ∀ t ∈ s.tables, KeepsLevel t := by
  have hblocks := indentFrom_blocks_iff (draw_groups h)
  rw [indentLines_lines, Drawing.nested]
  constructor
  · intro he
    have hlen : (declarationLine :: indentFrom 1 (d.blocks.flatten.map Event.line)).length =
        (declarationLine :: nestedLines [] d.blocks.flatten).length := by
      rw [List.length_cons, List.length_cons, length_indentFrom (kept_events _), List.length_map, length_nestedLines]
    rw [keepsLevel_iff h]
    exact hblocks.1 (List.cons.inj (List.append_inj he hlen).1).2
  · intro hk
    have hr := (keepsLevel_iff h).1 hk
    rw [hblocks.2 hr, climb_of_not_isRising (.flatten (draw_balanced h)) hr, Int.add_zero,
      indentFrom_edges (opensLevel_edges h hk)]

theorem climb_declarationLine (lines : List String) : climb (declarationLine :: lines) = climb lines + 1 := by
  rw [climb_cons, show rise declarationLine = 1 by decide, Int.add_comm]

theorem climb_blocks_one_iff {s : Schema} {d : Drawing} (h : draw s = .ok d) :
    (∀ k, climb (declarationLine :: (d.blocks.take k).flatten.map Event.line) = 1) ↔
      ∀ t ∈ s.tables, KeepsLevel t := by
  rw [keepsLevel_iff h]
  constructor
  · intro hc e he
    have hall := hc d.blocks.length
    rw [climb_declarationLine, List.take_length, climb_balanced (.flatten (draw_balanced h))] at hall
    have hzero : d.blocks.flatten.countP isRising = 0 := by omega
    simpa using List.countP_eq_zero.1 hzero e he
  · intro hr k
    have hb : Balanced (d.blocks.take k).flatten :=
      .flatten fun block hm => draw_balanced h block (List.mem_of_mem_take hm)
    have hnone : ∀ e ∈ (d.blocks.take k).flatten, isRising e = false := by
      intro e he
      obtain ⟨block, hm, he⟩ := List.mem_flatten.1 he
      exact hr e (List.mem_flatten.2 ⟨block, List.mem_of_mem_take hm, he⟩)
    rw [climb_declarationLine, climb_of_not_isRising hb hnone]; rfl

/-- Lines are indented by the groups around them, and the depth behind every table is one, exactly when no
table with a leaf in it has a name that begins like a line that opens a level. -/
theorem indentLines_eq_nested_iff {s : Schema} {d : Drawing} (h : draw s = .ok d) :
    (indentLines d.lines = d.nested ↔ ∀ t ∈ s.tables, KeepsLevel t) ∧
      ((∀ k, climb (declarationLine :: (d.blocks.take k).flatten.map Event.line) = 1) ↔
        ∀ t ∈ s.tables, KeepsLevel t) :=
  ⟨indentLines_nested_iff h, climb_blocks_one_iff h⟩

/-- Keywords among the names do no harm, nor does the name of a table without leaves. -/
theorem indentLines_keyword_names :
    let s : Schema := ⟨[⟨"end", .object [⟨"subgraph x", true, .union [.reference "flowchart"]⟩]⟩,
      ⟨"flowchart", .object [⟨"end", false, .primitive .string⟩]⟩, ⟨"subgraph y", .object []⟩]⟩
    ∃ d, draw s = .ok d ∧ indentLines d.lines = d.nested := by
  intro s
  exact ⟨_, rfl, (indentLines_eq_nested_iff (s := s) rfl).1.2 (by decide)⟩

/-- A leaf of a table whose name begins with the word for groups and a blank. -/
theorem indentLines_subgraph_name :
    ∃ d, draw ⟨[⟨"subgraph x", .object [⟨"a", false, .primitive .string⟩]⟩]⟩ = .ok d ∧
      indentLines d.lines ≠ d.nested ∧
      climb (declarationLine :: (d.blocks.take 1).flatten.map Event.line) = 2 :=
  ⟨_, rfl, by decide, by decide⟩

end SchemaChart.Diagram
