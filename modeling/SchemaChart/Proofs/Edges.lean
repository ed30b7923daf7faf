/-
Where edges begin and end. The edges of a drawing are those of the events whose nodes link to a table, in the
order of the events, and these events are the leaves of the references (`draw_edges`). Under plain names every
place of a schema has an identifier of its own, across all tables, so that an edge begins at one leaf only and
ends at the group of the table that it names, or at nothing when there is no such table (`entered_edge`).
-/
import SchemaChart.Proofs.Identifiers
import SchemaChart.Proofs.Nesting

namespace SchemaChart

namespace TypeTree

def isReference : TypeTree → Bool
  | .reference _ => true
  | _ => false

theorem linkedTable_eq_some_iff {t : TypeTree} {table : String} :
    t.linkedTable = some table ↔ t = .reference table := by
  cases t with
  | reference name => simp [linkedTable]
  | primitive | literal | object | union | array | record => simp [linkedTable]

theorem linkedTable_of_isGroup {t : TypeTree} (h : t.isGroup = true) : t.linkedTable = none := by
  cases t with
  | object | union | array => rfl
  | primitive | literal | reference | record => cases h

end TypeTree

namespace Diagram

open TypeTree

/-! ## Edges by their events -/

/-- The edge that begins at an event, if its node links to a table. -/
def Event.edge? (e : Event) : Option Edge := e.node.linkedTable.map fun table => ⟨e.node.path, table⟩

/-- Whether the node of an event links to a table. -/
def Event.isLinked (e : Event) : Bool := e.node.linkedTable.isSome

theorem edge?_entry (names : List String) (t : TypeTree) :
    [entry names t].filterMap Event.edge? = placeEdges names t := by
  unfold placeEdges
  rcases hl : t.linkedTable with _ | table <;> simp [Event.edge?, entry, placeNode, hl]

theorem isLinked_entry (names : List String) (t : TypeTree) : (entry names t).isLinked = t.isReference := by
  cases t <;> rfl

/-- Along a walk events and edges stay in step. -/
theorem walk_edges {p : Path} {t : TypeTree} {w : Walk} (h : walk p t = .ok w) :
    w.edges = w.events.filterMap Event.edge? := by
  refine walk_induction (P := fun _ _ w => w.edges = w.events.filterMap Event.edge?)
    (Q := fun _ _ w => w.edges = w.events.filterMap Event.edge?) ?_ ?_ ?_ ?_ p t w h
  · intro p t _ _
    exact (edge?_entry ..).symm
  · intro p t inner hg hi
    have hnone : ∀ kind, Event.edge? ⟨kind, placeNode p.names t⟩ = none := by
      intro kind
      simp [Event.edge?, placeNode, linkedTable_of_isGroup hg]
    simp [entry, hnone, hi]
  · intro p
    rfl
  · intro p x rest first others hf ho
    simp [hf, ho]

/-- Only leaves link to tables. -/
theorem kind_of_isLinked {p : Path} {t : TypeTree} {w : Walk} (h : walk p t = .ok w) :
    ∀ e ∈ w.events, e.isLinked = true → e.kind = .leaf := by
  refine walk_induction (P := fun _ _ w => ∀ e ∈ w.events, e.isLinked = true → e.kind = .leaf)
    (Q := fun _ _ w => ∀ e ∈ w.events, e.isLinked = true → e.kind = .leaf) ?_ ?_ ?_ ?_ p t w h
  · intro p t hg _
    simp [entry, hg]
  · intro p t inner hg hi
    have hnone : ∀ kind, Event.isLinked ⟨kind, placeNode p.names t⟩ = false := by
      intro kind
      simp [Event.isLinked, placeNode, linkedTable_of_isGroup hg]
    simpa [entry, hnone, or_imp, forall_and] using hi
  · intro p e he
    cases he
  · intro p x rest first others hf ho e he
    rcases List.mem_append.1 he with he | he
    · exact hf e he
    · exact ho e he

theorem filter_isLinked_entries {es : List Event} (h : ∀ e ∈ es, e.isLinked = true → e.kind = .leaf) :
    (entries es).filter Event.isLinked = es.filter Event.isLinked := by
  rw [entries, List.filter_filter]
  refine List.filter_congr fun e he => ?_
  rcases hl : e.isLinked with _ | _
  · rfl
  · simp [h e he hl]

/-- The events of a walk that link to tables are those of the references, in order. -/
theorem filter_isLinked {p : Path} {t : TypeTree} {w : Walk} (h : walk p t = .ok w) :
    w.events.filter Event.isLinked =
      (t.places.filter fun x => x.type.isReference).map fun x => entry (p.names ++ x.chain) x.type := by
  rw [← filter_isLinked_entries (kind_of_isLinked h), (walk_places h).1, List.filter_map]
  simp only [Function.comp_def, isLinked_entry]

/-- The edges of a drawing are those of its events, block by block and in order. The events that have edges are
leaves, those of the references. -/
theorem draw_edges {s : Schema} {d : Drawing} (h : draw s = .ok d) :
    d.edges = (d.blocks.map fun block => block.filterMap Event.edge?).flatten ∧
      (∀ block ∈ d.blocks, ∀ e ∈ block, e.isLinked = true → e.kind = .leaf) ∧
      List.Forall₂ (fun t block => block.filter Event.isLinked =
        (t.type.places.filter fun x => x.type.isReference).map fun x => entry (t.name :: x.chain) x.type)
        s.tables d.blocks := by
  obtain ⟨ws, hws, rfl⟩ := draw_walks h
  refine ⟨?_, ?_, ?_⟩
  · have hstep := forall_mem_of_forall₂ hws fun t w hw => walk_edges hw.2
    rw [List.map_map]
    exact congrArg List.flatten (List.map_congr_left hstep)
  · rw [List.forall_mem_map]
    exact forall_mem_of_forall₂ hws fun t w hw => kind_of_isLinked hw.2
  · rw [List.forall₂_map_right_iff]
    exact hws.imp fun t w hw => filter_isLinked hw.2

/-- Two references to one table, one of them in a field that may be left out. -/
theorem draw_edges_repeated :
    let t : TypeTree := .object [⟨"a", true, .array (.reference "u")⟩, ⟨"b", false, .reference "u"⟩]
    ∃ d, draw ⟨[⟨"t", t⟩]⟩ = .ok d ∧ d.edges = [⟨"t.a?.array.0", "u"⟩, ⟨"t.b", "u"⟩] ∧
      d.edges = (d.blocks.map fun block => block.filterMap Event.edge?).flatten := by
  intro t
  exact ⟨_, rfl, rfl, (draw_edges (s := ⟨[⟨"t", t⟩]⟩) rfl).1⟩

/-! ## Identifiers across tables -/

/-- Names of tables without a dot, and plain names of fields, no two of one object the same. -/
structure PlainNames (s : Schema) : Prop where
  tables : ∀ t ∈ s.tables, '.' ∉ t.name.toList
  fields : ∀ t ∈ s.tables, ∀ x ∈ t.type.places, x.type.PlainFields

theorem entries_flatten (blocks : List (List Event)) : entries blocks.flatten = (blocks.map entries).flatten :=
  List.filter_flatten

/-- The entries and the edges of a drawing are those of the places in its tables, in order. -/
theorem draw_places {s : Schema} {d : Drawing} (h : draw s = .ok d) :
    entries d.blocks.flatten =
        s.tables.flatMap (fun t => t.type.places.map fun x => entry (t.name :: x.chain) x.type) ∧
      d.edges = s.tables.flatMap fun t => t.type.places.flatMap fun x => placeEdges (t.name :: x.chain) x.type := by
  obtain ⟨ws, hws, rfl⟩ := draw_walks h
  rw [entries_flatten]
  clear h
  generalize s.tables = ts at hws
  dsimp only
  induction hws with
  | nil => exact ⟨rfl, rfl⟩
  | cons hw _ ih =>
    obtain ⟨hentries, hedges⟩ := walk_places hw.2
    simp only [List.map_cons, List.flatten_cons, List.flatMap_cons]
    rw [hentries, hedges, ih.1, ih.2]
    exact ⟨rfl, rfl⟩

theorem mem_entries_iff {s : Schema} {d : Drawing} (h : draw s = .ok d) {e : Event} : e ∈ entries d.blocks.flatten ↔
    ∃ t ∈ s.tables, ∃ x ∈ t.type.places, e = entry (t.name :: x.chain) x.type := by
  rw [(draw_places h).1]
  simp [List.mem_flatMap, eq_comm]

/-- The edges are those of the references, each from its place to its table. -/
theorem mem_edges_iff {s : Schema} {d : Drawing} (h : draw s = .ok d) {e : Edge} : e ∈ d.edges ↔
    ∃ t ∈ s.tables, ∃ x ∈ t.type.places, x.type = .reference e.target ∧ e.source = joinNames (t.name :: x.chain) := by
  have hplace : ∀ names t, e ∈ placeEdges names t ↔ t = .reference e.target ∧ e.source = joinNames names := by
    intro names t
    rw [placeEdges, List.mem_map]
    constructor
    · rintro ⟨table, ht, rfl⟩
      exact ⟨linkedTable_eq_some_iff.1 (Option.mem_toList.1 ht), rfl⟩
    · rintro ⟨ht, hs⟩
      exact ⟨e.target, Option.mem_toList.2 (linkedTable_eq_some_iff.2 ht), by rw [← hs]⟩
  rw [(draw_places h).2]
  simp only [List.mem_flatMap, hplace]

/-- Two identifiers below names without dots are different when the names are. -/
theorem head_eq_of_joinNames_eq {m n : String} {q r : List String} (hm : '.' ∉ m.toList) (hn : '.' ∉ n.toList)
    (h : joinNames (m :: q) = joinNames (n :: r)) : m = n := by
  rcases joinNames_eq_cases h with h | ⟨_, _, _, -, hd, -⟩ | ⟨_, _, _, -, hd, -⟩
  · exact h
  · exact absurd (mem_toList_of_eq_dot hd) hn
  · exact absurd (mem_toList_of_eq_dot hd) hm

/-- Under plain names no two places of a schema have one identifier. -/
theorem nodup_entries_path {s : Schema} {d : Drawing} (hp : PlainNames s) (h : draw s = .ok d) :
    ((entries d.blocks.flatten).map fun e => e.node.path).Nodup := by
  rw [(draw_places h).1, List.map_flatMap, List.nodup_flatMap]
  constructor
  · intro t ht
    rw [List.map_map]
    exact (nodup_joinNames_iff (List.cons_ne_nil t.name []) t.type).2 (unambiguous_of_plain (hp.fields t ht))
  · have hnames := (draw_ok_iff.1 ⟨d, h⟩).names
    refine (List.pairwise_map.1 hnames).imp_of_mem fun {t u} ht hu hne => ?_
    change List.Disjoint _ _
    dsimp only
    rw [List.map_map, List.map_map, List.disjoint_left]
    intro path hx hy
    obtain ⟨x, -, rfl⟩ := List.mem_map.1 hx
    obtain ⟨y, -, hy⟩ := List.mem_map.1 hy
    exact hne (head_eq_of_joinNames_eq (hp.tables t ht) (hp.tables u hu) hy.symm)

/-! ## The ends of edges -/

/-- The events that enter a place of the given identifier. -/
def Drawing.entered (d : Drawing) (path : String) : List Event :=
  (entries d.blocks.flatten).filter fun e => e.node.path = path

theorem filter_eq_singleton {α : Type} {f : α → String} {l : List α} (h : (l.map f).Nodup) {a : α} (ha : a ∈ l) :
    (l.filter fun b => f b = f a) = [a] := by
  obtain ⟨before, after, rfl⟩ := List.append_of_mem ha
  rw [List.map_append, List.map_cons, List.nodup_middle, List.nodup_cons, ← List.map_append] at h
  have hother : ∀ b ∈ before ++ after, f b ≠ f a := fun b hb he => h.1 (he ▸ List.mem_map_of_mem hb)
  obtain ⟨hb, ha⟩ := List.forall_mem_append.1 hother
  rw [List.filter_append, List.filter_cons_of_pos (by simp), List.filter_eq_nil_iff.2 (by simpa using hb),
    List.filter_eq_nil_iff.2 (by simpa using ha)]
  rfl

/-- Under plain names a place is entered by its own event only. -/
theorem entered_entry {s : Schema} {d : Drawing} (hp : PlainNames s) (h : draw s = .ok d) {t : Table}
    (ht : t ∈ s.tables) {x : Place} (hx : x ∈ t.type.places) :
    d.entered (joinNames (t.name :: x.chain)) = [entry (t.name :: x.chain) x.type] :=
  filter_eq_singleton (nodup_entries_path hp h) ((mem_entries_iff h).2 ⟨t, ht, x, hx, rfl⟩)

/-- A text without a dot that is no table's name is the identifier of no event. -/
theorem path_ne_of_no_table {s : Schema} {d : Drawing} (h : draw s = .ok d) {path : String} (hdot : '.' ∉ path.toList)
    (hname : path ∉ s.names) : ∀ e ∈ d.blocks.flatten, e.node.path ≠ path := by
  intro e he hpath
  obtain ⟨f, hf, hnode⟩ := List.mem_map.1 ((Balanced.flatten (draw_balanced h)).node_mem e he)
  obtain ⟨t, ht, x, -, rfl⟩ := (mem_entries_iff h).1 hf
  rw [← hnode] at hpath
  obtain rfl : joinNames (t.name :: x.chain) = path := hpath
  rcases hc : x.chain with _ | ⟨next, chain⟩
  · rw [hc] at hname
    exact hname (List.mem_map_of_mem ht)
  · rw [hc, joinNames_cons_cons] at hdot
    simp at hdot

/-- Under plain names an edge begins at the one place with its source for identifier, a reference to its target.
It ends at the one place with its target for identifier, the group of the table of that name; or, if there is no
such table and no dot in the name, at no event. -/
theorem entered_edge {s : Schema} {d : Drawing} (hp : PlainNames s) (h : draw s = .ok d) : ∀ e ∈ d.edges,
    (∃ names, d.entered e.source = [⟨.leaf, placeNode names (.reference e.target)⟩]) ∧
      (∀ t ∈ s.tables, t.name = e.target → d.entered e.target = [⟨.openGroup, placeNode [t.name] t.type⟩]) ∧
      ('.' ∉ e.target.toList → e.target ∉ s.names → ∀ event ∈ d.blocks.flatten, event.node.path ≠ e.target) := by
  intro e he
  refine ⟨?_, ?_, path_ne_of_no_table h⟩
  · obtain ⟨t, ht, x, hx, hty, hs⟩ := (mem_edges_iff h).1 he
    refine ⟨t.name :: x.chain, ?_⟩
    rw [hs, entered_entry hp h ht hx, hty]
    rfl
  · intro t ht hname
    have hroot : entry [t.name] t.type = ⟨.openGroup, placeNode [t.name] t.type⟩ := by
      rw [entry, isGroup_of_isRoot ((draw_ok_iff.1 ⟨d, h⟩).each t ht).root]
      rfl
    have htop : t.type.top ∈ t.type.places := by
      rw [places_eq]
      exact List.mem_cons_self ..
    rw [← hname, ← hroot]
    exact entered_entry hp h ht htop

/-- References to the own table and to none, in unions and arrays. -/
theorem entered_edge_union_array :
    let s : Schema := ⟨[⟨"t", .object [⟨"a", true, .union [.array (.reference "t"), .reference "v"]⟩]⟩,
      ⟨"u", .union [.reference "t"]⟩]⟩
    PlainNames s ∧ ∃ d, draw s = .ok d ∧
      (∃ names, d.entered "t.a?.union.0.array.0" = [⟨.leaf, placeNode names (.reference "t")⟩]) ∧
      d.entered "t" = [⟨.openGroup, ⟨"t", "t", .group, "t", none⟩⟩] ∧
      ∀ event ∈ d.blocks.flatten, event.node.path ≠ "v" := by
  intro s
  have hp : PlainNames s := ⟨by decide, by decide⟩
  have ht := entered_edge (s := s) hp rfl ⟨"t.a?.union.0.array.0", "t"⟩ (by decide)
  have hv := entered_edge (s := s) hp rfl ⟨"t.a?.union.1", "v"⟩ (by decide)
  exact ⟨hp, _, rfl, ht.1, ht.2.1 _ (List.mem_cons_self ..) rfl, hv.2.2 (by decide) (by decide)⟩

end Diagram

end SchemaChart
