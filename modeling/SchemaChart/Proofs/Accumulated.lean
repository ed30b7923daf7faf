/-
Tables walked one at a time. Where no two tables have one name, every name leads to the table that has it
(`get_of_mem`), so the walks of the tables, each looked up by its name and added to those before it, come to what is
drawn for all tables at once. Which events stand in one block is not seen in a flowchart: one block with all of them
gives the same text (`accumulate_names`).
-/
import SchemaChart.Proofs.Tables
import SchemaChart.Schema.Source
import Mathlib.Data.List.Nodup

namespace SchemaChart

open Diagram

/-! ## Walks one after the other -/

/-- Walks one after the other. -/
def Diagram.Walk.join (ws : List Walk) : Walk := ⟨(ws.map Walk.events).flatten, (ws.map Walk.edges).flatten⟩

theorem Diagram.Walk.join_cons (w : Walk) (ws : List Walk) : Walk.join (w :: ws) = w ++ Walk.join ws := rfl

namespace Schema

variable {s : Schema}

theorem find?_of_mem (h : s.names.Nodup) {t : Table} (ht : t ∈ s.tables) : s.find? t.name = some t := by
  rcases hf : s.find? t.name with _ | u
  · exact absurd (List.find?_eq_none.1 hf t ht) (by simp)
  · have hname : u.name = t.name := by simpa using List.find?_some hf
    rw [List.inj_on_of_nodup_map h (List.mem_of_find?_eq_some hf) ht hname]

/-- A name that only one table has leads to this table. -/
theorem get_of_mem (h : s.names.Nodup) {t : Table} (ht : t ∈ s.tables) : s.get t.name = .ok t := by
  rw [get, find?_of_mem h ht]

/-- One table more. -/
theorem accumulate_of_mem (h : s.names.Nodup) {t : Table} (ht : t ∈ s.tables) {v : Walk} (hv : walkTable t = .ok v)
    (w : Walk) : s.accumulate w t.name = .ok (w ++ v) := by
  rw [accumulate, get_of_mem h ht]
  show ((walkTable t).mapError Failure.diagram >>= fun next => pure (w ++ next)) = _
  rw [hv]
  rfl

/-- All tables of a list, from a walk on. -/
theorem foldlM_accumulate (h : s.names.Nodup) {ts : List Table} {vs : List Walk}
    (hvs : List.Forall₂ (fun t v => walkTable t = .ok v) ts vs) (hts : ∀ t ∈ ts, t ∈ s.tables) (w : Walk) :
    (ts.map (·.name)).foldlM s.accumulate w = .ok (w ++ Walk.join vs) := by
  induction hvs generalizing w with
  | nil => exact congrArg Except.ok (Walk.append_empty w).symm
  | @cons t v ts vs hv _ ih =>
    obtain ⟨ht, hrest⟩ := List.forall_mem_cons.1 hts
    rw [List.map_cons, List.foldlM_cons, accumulate_of_mem h ht hv, Walk.join_cons, ← Walk.append_assoc]
    exact ih hrest (w ++ v)

end Schema

namespace Diagram

/-! ## Blocks -/

/-- A flowchart shows the events and the edges of a drawing, and not which events are in one block. -/
theorem flowchart_congr {d e : Drawing} (hblocks : d.blocks.flatten = e.blocks.flatten) (hedges : d.edges = e.edges) :
    d.flowchart = e.flowchart := by
  rw [Drawing.flowchart, Drawing.flowchart, Drawing.lines, Drawing.lines, hblocks, hedges]

/-- If the tables of a schema are walked one at a time, in the order of their names, each of them looked up by its name
and its walk added to those before it, then all events of the drawing of the schema come out, block by block, and all
its edges. In one single block these events have the flowchart of the schema, and in any two groupings, with empty
blocks or such as do not close what they open, events have one flowchart. -/
theorem accumulate_names {s : Schema} {d : Drawing} (h : draw s = .ok d) :
    (∃ w, s.names.foldlM s.accumulate .empty = .ok w ∧ w.events = d.blocks.flatten ∧ w.edges = d.edges ∧
      flowchart s = .ok (Drawing.flowchart ⟨[w.events], w.edges⟩)) ∧
    ∀ (blocks blocks' : List (List Event)) (edges : List Edge), blocks.flatten = blocks'.flatten →
      Drawing.flowchart ⟨blocks, edges⟩ = Drawing.flowchart ⟨blocks', edges⟩ := by
  refine ⟨?_, fun blocks blocks' edges hb => flowchart_congr hb rfl⟩
  have hn : s.names.Nodup := (draw_ok_iff.1 ⟨d, h⟩).names
  obtain ⟨ws, hws, rfl⟩ := drawTables_walks h
  refine ⟨Walk.join ws, ?_, rfl, rfl, ?_⟩
  · rw [Schema.names, Schema.foldlM_accumulate hn hws (fun t ht => ht), Walk.empty_append]
  · rw [flowchart, h]
    exact congrArg Except.ok (flowchart_congr (List.append_nil _).symm rfl)

/-- Two tables that refer to each other, in one block with the end of the first group in another one, and an empty one
between. -/
theorem accumulate_names_references :
    let s : Schema := ⟨[⟨"t", .object [⟨"a", true, .array (.reference "u")⟩]⟩, ⟨"u", .union [.reference "t"]⟩]⟩
    ∃ d w, draw s = .ok d ∧ s.names.foldlM s.accumulate .empty = .ok w ∧ w.events = d.blocks.flatten ∧
      w.edges = [⟨"t.a?.array.0", "u"⟩, ⟨"u.union.0", "t"⟩] ∧
      flowchart s = .ok (Drawing.flowchart ⟨[w.events], w.edges⟩) ∧
      Drawing.flowchart ⟨[w.events], w.edges⟩ =
        Drawing.flowchart ⟨[w.events.take 2, [], w.events.drop 2], w.edges⟩ := by
  intro s
  obtain ⟨⟨w, hw, hevents, hedges, htext⟩, hblocks⟩ := accumulate_names (s := s) rfl
  exact ⟨_, w, rfl, hw, hevents, hedges, htext, hblocks _ _ _ (by simp)⟩

end Diagram

end SchemaChart
