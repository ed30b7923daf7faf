/-
Drawings put together from those of single tables. All that a table asks of the others is that they do not bear its
name, so a drawing is the drawings of its tables by themselves, one after the other (`draw_eq_ok_iff`). The depth is
counted on from line to line, but it is back on the first level behind every table, unless the name of one begins
like a line that opens a level; the lines of a table are then indented as if it stood alone (`flowchart_append`).
-/
import SchemaChart.Proofs.Indentation
import Mathlib.Data.List.Nodup

namespace SchemaChart.Diagram

open TypeTree

/-- A drawing and another one behind it: the blocks of both, then the edges of both. -/
instance : Append Drawing := ⟨fun d e => ⟨d.blocks ++ e.blocks, d.edges ++ e.edges⟩⟩

namespace Drawing

@[simp] theorem blocks_append (d e : Drawing) : (d ++ e).blocks = d.blocks ++ e.blocks := rfl

@[simp] theorem edges_append (d e : Drawing) : (d ++ e).edges = d.edges ++ e.edges := rfl

/-- Drawings one after the other. -/
def join (ds : List Drawing) : Drawing := ⟨ds.flatMap blocks, ds.flatMap edges⟩

theorem join_cons (d : Drawing) (ds : List Drawing) : join (d :: ds) = d ++ join ds := rfl

theorem join_append (ds es : List Drawing) : join (ds ++ es) = join ds ++ join es :=
  congrArg₂ mk (List.flatMap_append ..) (List.flatMap_append ..)

end Drawing

/-! ## Tables by themselves -/

/-- Drawings of the given tables, each by itself. -/
def DrawnAlone (ts : List Table) (ds : List Drawing) : Prop := List.Forall₂ (fun t d => draw ⟨[t]⟩ = .ok d) ts ds

theorem draw_singleton (t : Table) : draw ⟨[t]⟩ = (walkTable t).map fun w => ⟨[w.events], w.edges⟩ := by
  rw [draw, drawTables, if_neg List.not_mem_nil]
  rcases walkTable t with e | w
  · rfl
  · show Except.ok (Drawing.mk [w.events] (w.edges ++ [])) = .ok ⟨[w.events], w.edges⟩
    rw [List.append_nil]

theorem DrawnAlone.unique {ts : List Table} {ds es : List Drawing} (hd : DrawnAlone ts ds) (he : DrawnAlone ts es) :
    ds = es := by
  refine Relator.RightUnique.forall₂ ?_ hd he
  intro t d e hd he
  exact Except.ok.inj (hd.symm.trans he)

theorem drawnAlone_of_draw {ts : List Table} {d : Drawing} (h : draw ⟨ts⟩ = .ok d) :
    ∃ ds, DrawnAlone ts ds ∧ d = Drawing.join ds := by
  obtain ⟨ws, hws, rfl⟩ := drawTables_walks h
  refine ⟨ws.map fun w => ⟨[w.events], w.edges⟩, ?_, ?_⟩
  · rw [DrawnAlone, List.forall₂_map_right_iff]
    exact hws.imp fun t w hw => by rw [draw_singleton, hw]; rfl
  · rw [Drawing.join, List.flatMap_map, List.flatMap_map, List.map_eq_flatMap, ← List.flatMap_def]

/-- Tables are drawn together exactly when their names are distinct and each is drawn by itself, and what is drawn
are these drawings, one after the other. -/
theorem draw_eq_ok_iff {ts : List Table} {d : Drawing} : draw ⟨ts⟩ = .ok d ↔
    (ts.map (·.name)).Nodup ∧ ∃ ds, DrawnAlone ts ds ∧ d = Drawing.join ds := by
  constructor
  · intro h
    exact ⟨(draw_ok_iff.1 ⟨d, h⟩).names, drawnAlone_of_draw h⟩
  · rintro ⟨hn, ds, hds, rfl⟩
    have halone : ∀ t ∈ ts, Drawable t := by
      refine forall_mem_of_forall₂ (List.Forall₂.flip (R := fun d t => draw ⟨[t]⟩ = .ok d) hds) fun d t hd => ?_
      exact (draw_ok_iff.1 ⟨d, hd⟩).each t (List.mem_singleton_self t)
    obtain ⟨d, hd⟩ : ∃ d, draw ⟨ts⟩ = .ok d := draw_ok_iff.2 ⟨hn, halone⟩
    -- something is drawn, and it is made of the only drawings that the tables have alone
    obtain ⟨es, hes, rfl⟩ := drawnAlone_of_draw hd
    rw [hd, hds.unique hes]

/-- Two lists of tables are drawn together exactly when each is and no name is in both. -/
theorem draw_append_eq_ok_iff {a b : List Table} {c : Drawing} : draw ⟨a ++ b⟩ = .ok c ↔
    ∃ d e, draw ⟨a⟩ = .ok d ∧ draw ⟨b⟩ = .ok e ∧ (a.map (·.name)).Disjoint (b.map (·.name)) ∧ c = d ++ e := by
  simp only [draw_eq_ok_iff, List.map_append, List.nodup_append']
  constructor
  · rintro ⟨⟨ha, hb, hdisjoint⟩, cs, hcs, rfl⟩
    -- the drawings are parted where the tables are
    have hds := List.forall₂_take a.length hcs
    have hes := List.forall₂_drop a.length hcs
    rw [List.take_left] at hds
    rw [List.drop_left] at hes
    rw [← List.take_append_drop a.length cs, Drawing.join_append]
    exact ⟨_, _, ⟨ha, _, hds, rfl⟩, ⟨hb, _, hes, rfl⟩, hdisjoint, rfl⟩
  · rintro ⟨_, _, ⟨ha, ds, hds, rfl⟩, ⟨hb, es, hes, rfl⟩, hdisjoint, rfl⟩
    exact ⟨⟨ha, hb, hdisjoint⟩, ds ++ es, List.rel_append hds hes, (Drawing.join_append ds es).symm⟩

/-! ## Lines -/

/-- The lines of a flowchart that stand for events: as many as there are events, behind the first line. -/
def Drawing.blockLines (d : Drawing) : List String := ((indentLines d.lines).drop 1).take d.blocks.flatten.length

/-- The lines of a flowchart that stand for edges: those behind the lines for events. -/
def Drawing.edgeLines (d : Drawing) : List String := (indentLines d.lines).drop (1 + d.blocks.flatten.length)

theorem length_indentFrom_events (depth : Int) (es : List Event) :
    (indentFrom depth (es.map Event.line)).length = es.length := by
  rw [length_indentFrom (kept_events es), List.length_map]

theorem blockLines_eq (d : Drawing) : d.blockLines = indentFrom 1 (d.blocks.flatten.map Event.line) := by
  rw [Drawing.blockLines, indentLines_lines, List.cons_append, List.drop_one, List.tail_cons]
  exact List.take_left' (length_indentFrom_events 1 _)

theorem edgeLines_eq (d : Drawing) :
    d.edgeLines = indentFrom (1 + climb (d.blocks.flatten.map Event.line)) (d.edges.map Edge.line) := by
  rw [Drawing.edgeLines, indentLines_lines, Nat.add_comm, List.cons_append, List.drop_succ_cons]
  exact List.drop_left' (length_indentFrom_events 1 _)

theorem indentLines_eq (d : Drawing) : indentLines d.lines = declarationLine :: d.blockLines ++ d.edgeLines := by
  rw [blockLines_eq, edgeLines_eq, indentLines_lines]

/-- A drawing behind whose events the lines are on the level on which they were before, and whose edges do not leave
it. -/
structure Level (d : Drawing) : Prop where
  events : climb (d.blocks.flatten.map Event.line) = 0
  edges : ∀ e ∈ d.edges, opensLevel e.line = false

theorem level_of_draw {s : Schema} {d : Drawing} (h : draw s = .ok d) (hk : ∀ t ∈ s.tables, KeepsLevel t) :
    Level d :=
  ⟨climb_of_not_isRising (.flatten (draw_balanced h)) ((keepsLevel_iff h).1 hk), opensLevel_edges h hk⟩

theorem Level.edgeLines {d : Drawing} (h : Level d) : d.edgeLines = d.edges.map fun e => spaces 2 ++ e.line := by
  rw [edgeLines_eq, h.events, Int.add_zero, indentFrom_edges h.edges]

theorem Level.append {d e : Drawing} (hd : Level d) (he : Level e) : Level (d ++ e) where
  events := by
    rw [Drawing.blocks_append, List.flatten_append, List.map_append, climb_append, hd.events, he.events, Int.add_zero]
  edges := List.forall_mem_append.2 ⟨hd.edges, he.edges⟩

/-- Behind a drawing that keeps its level another one has the lines that it has alone. -/
theorem Level.blockLines_append {d e : Drawing} (hd : Level d) :
    (d ++ e).blockLines = d.blockLines ++ e.blockLines := by
  rw [blockLines_eq, blockLines_eq, blockLines_eq, Drawing.blocks_append, List.flatten_append, List.map_append,
    indentFrom_append, hd.events, Int.add_zero]

theorem Level.edgeLines_append {d e : Drawing} (hd : Level d) (he : Level e) :
    (d ++ e).edgeLines = d.edgeLines ++ e.edgeLines := by
  rw [(hd.append he).edgeLines, Drawing.edges_append, hd.edgeLines, he.edgeLines, List.map_append]

theorem Level.join {ds : List Drawing} (h : ∀ d ∈ ds, Level d) : Level (Drawing.join ds) := by
  induction ds with
  | nil => exact ⟨rfl, fun e he => (by cases he)⟩
  | cons d ds ih =>
    obtain ⟨hd, hds⟩ := List.forall_mem_cons.1 h
    exact hd.append (ih hds)

theorem blockLines_join {ds : List Drawing} (h : ∀ d ∈ ds, Level d) :
    (Drawing.join ds).blockLines = ds.flatMap Drawing.blockLines := by
  induction ds with
  | nil => rfl
  | cons d ds ih =>
    obtain ⟨hd, hds⟩ := List.forall_mem_cons.1 h
    rw [Drawing.join_cons, hd.blockLines_append, ih hds, List.flatMap_cons]

theorem edgeLines_join {ds : List Drawing} (h : ∀ d ∈ ds, Level d) :
    (Drawing.join ds).edgeLines = ds.flatMap Drawing.edgeLines := by
  induction ds with
  | nil => rfl
  | cons d ds ih =>
    obtain ⟨hd, hds⟩ := List.forall_mem_cons.1 h
    rw [Drawing.join_cons, hd.edgeLines_append (.join hds), ih hds, List.flatMap_cons]

/-! ## Flowcharts -/

/-- Tables that do not begin like a line that opens a level have the lines that they have alone. -/
theorem lines_of_alone {ts : List Table} {d : Drawing} (h : draw ⟨ts⟩ = .ok d) (hk : ∀ t ∈ ts, KeepsLevel t) :
    ∃ ds, DrawnAlone ts ds ∧ d.blockLines = ds.flatMap Drawing.blockLines ∧
      d.edgeLines = ds.flatMap Drawing.edgeLines := by
  obtain ⟨ds, hds, rfl⟩ := drawnAlone_of_draw h
  have hlevel : ∀ d ∈ ds, Level d := by
    refine forall_mem_of_forall₂ ((List.forall₂_and_left _ _).2 ⟨hk, hds⟩) fun t d hd => ?_
    exact level_of_draw hd.2 (List.forall_mem_singleton.2 hd.1)
  exact ⟨ds, hds, blockLines_join hlevel, edgeLines_join hlevel⟩

theorem flowchart_eq {s : Schema} {d : Drawing} (h : draw s = .ok d) :
    flowchart s = .ok ("\n".intercalate (declarationLine :: d.blockLines ++ d.edgeLines)) := by
  rw [flowchart, h, ← indentLines_eq]
  rfl

/-- Two lists of tables are drawn together exactly when each is drawn and no name is in both, and then the events
and the edges of the second stand behind those of the first. If no table has a name that begins like a line that
opens a level, then the lines for events and the lines for edges are those of the two flowcharts as well, and
those of every table are the ones it has alone. -/
theorem flowchart_append (a b : List Table) :
    ((∃ c, draw ⟨a ++ b⟩ = .ok c) ↔
      (∃ d, draw ⟨a⟩ = .ok d) ∧ (∃ e, draw ⟨b⟩ = .ok e) ∧ (a.map (·.name)).Disjoint (b.map (·.name))) ∧
    ∀ c, draw ⟨a ++ b⟩ = .ok c → ∃ d e, draw ⟨a⟩ = .ok d ∧ draw ⟨b⟩ = .ok e ∧
      c.blocks = d.blocks ++ e.blocks ∧ c.edges = d.edges ++ e.edges ∧
      flowchart ⟨a⟩ = .ok ("\n".intercalate (declarationLine :: d.blockLines ++ d.edgeLines)) ∧
      flowchart ⟨b⟩ = .ok ("\n".intercalate (declarationLine :: e.blockLines ++ e.edgeLines)) ∧
      ((∀ t ∈ a ++ b, opensLevel t.name = false) →
        flowchart ⟨a ++ b⟩ = .ok ("\n".intercalate
          (declarationLine :: d.blockLines ++ e.blockLines ++ d.edgeLines ++ e.edgeLines)) ∧
        c.blockLines = d.blockLines ++ e.blockLines ∧ c.edgeLines = d.edgeLines ++ e.edgeLines ∧
        ∃ ds, DrawnAlone (a ++ b) ds ∧ c.blockLines = ds.flatMap Drawing.blockLines ∧
          c.edgeLines = ds.flatMap Drawing.edgeLines) := by
  refine ⟨?_, fun c hc => ?_⟩
  · constructor
    · rintro ⟨c, hc⟩
      obtain ⟨d, e, hd, he, hdisjoint, -⟩ := draw_append_eq_ok_iff.1 hc
      exact ⟨⟨d, hd⟩, ⟨e, he⟩, hdisjoint⟩
    · rintro ⟨⟨d, hd⟩, ⟨e, he⟩, hdisjoint⟩
      exact ⟨d ++ e, draw_append_eq_ok_iff.2 ⟨d, e, hd, he, hdisjoint, rfl⟩⟩
  · obtain ⟨d, e, hd, he, -, rfl⟩ := draw_append_eq_ok_iff.1 hc
    refine ⟨d, e, hd, he, rfl, rfl, flowchart_eq hd, flowchart_eq he, fun hn => ?_⟩
    have hkeeps : ∀ t ∈ a ++ b, KeepsLevel t := fun t ht ho => by rw [hn t ht] at ho; cases ho
    obtain ⟨ha, hb⟩ := List.forall_mem_append.1 hkeeps
    have hblocks : (d ++ e).blockLines = d.blockLines ++ e.blockLines := (level_of_draw hd ha).blockLines_append
    have hedges : (d ++ e).edgeLines = d.edgeLines ++ e.edgeLines :=
      (level_of_draw hd ha).edgeLines_append (level_of_draw he hb)
    refine ⟨?_, hblocks, hedges, lines_of_alone hc hkeeps⟩
    rw [flowchart_eq hc, hblocks, hedges, ← List.append_assoc]
    rfl

/-- Two tables that refer to each other, the first of them named like the line that closes a group. -/
theorem flowchart_append_references :
    let a : List Table := [⟨"end", .object [⟨"subgraph x", true, .array (.reference "u")⟩]⟩]
    let b : List Table := [⟨"u", .union [.object [], .reference "end"]⟩]
    ∃ d e, draw ⟨a⟩ = .ok d ∧ draw ⟨b⟩ = .ok e ∧ d.edgeLines ≠ [] ∧ flowchart ⟨a ++ b⟩ = .ok ("\n".intercalate
      (declarationLine :: d.blockLines ++ e.blockLines ++ d.edgeLines ++ e.edgeLines)) := by
  intro a b
  obtain ⟨d, e, hd, he, -, -, -, -, hlines⟩ := (flowchart_append a b).2 _ rfl
  refine ⟨d, e, hd, he, ?_, (hlines (by decide)).1⟩
  cases hd
  decide

end SchemaChart.Diagram
