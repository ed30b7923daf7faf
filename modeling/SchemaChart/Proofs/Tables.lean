/-
Which schemas are drawn, and what is held against the others. A drawing holds the walks of its tables
(`draw_walks`). A schema is drawn exactly when the names of its tables are distinct and every table can be
drawn by itself: it is an object or a union, and no place in it is a record. Otherwise the first table that
does not fit behind those before it decides, whatever comes after it (`draw_faults`): a name that is taken
counts before the kind of the type, and that before a record inside.
-/
import SchemaChart.Proofs.Places
import SchemaChart.Diagram.Flowchart
import Mathlib.Data.List.Forall2

namespace SchemaChart

/-- Whether the documents of a table can have a type. -/
def TypeTree.isRoot : TypeTree → Bool
  | .object _ => true
  | .union _ => true
  | _ => false

theorem TypeTree.isGroup_of_isRoot {t : TypeTree} (h : t.isRoot = true) : t.isGroup = true := by
  cases t with
  | object | union => rfl
  | primitive | literal | reference | array | record => cases h

namespace Diagram

open TypeTree

/-! ## What is asked of tables -/

/-- A table that can be drawn by itself. -/
structure Drawable (t : Table) : Prop where
  root : t.type.isRoot = true
  recordFree : t.type.RecordFree

/-- Tables that can be drawn together. -/
structure DrawableAll (ts : List Table) : Prop where
  names : (ts.map (·.name)).Nodup
  each : ∀ t ∈ ts, Drawable t

/-- What is held against a table behind tables of the names `earlier`: its name is taken; or else it is a
record; or else it is neither an object nor a union; or else the first of its places that is a record. -/
inductive Held (earlier : List String) (t : Table) : Error → Prop
  | duplicate : t.name ∈ earlier → Held earlier t (.duplicateTable t.name)
  | recordRoot : t.name ∉ earlier → t.type.isRecord = true → Held earlier t (.unsupportedField t.name "record")
  | root : t.name ∉ earlier → t.type.isRecord = false → t.type.isRoot = false →
      Held earlier t (.unsupportedRoot t.name t.type.kindName)
  | record {before after : List Place} {x : Place} : t.name ∉ earlier → t.type.isRoot = true →
      t.type.places = before ++ x :: after → (∀ y ∈ before, y.type.isRecord = false) → x.type.isRecord = true →
      Held earlier t (.unsupportedField (joinNames (t.name :: x.chain)) "record")

/-! ## One table -/

theorem walkTable_root {t : Table} (h : t.type.isRoot = true) : walkTable t = walk (.root t.name) t.type := by
  unfold walkTable
  cases ht : t.type with
  | object | union => rfl
  | primitive | literal | reference | array | record => rw [ht] at h; cases h

theorem walkTable_record {t : Table} (h : t.type.isRecord = true) :
    walkTable t = .error (.unsupportedField t.name "record") := by
  unfold walkTable
  cases ht : t.type with
  | record => rfl
  | primitive | literal | reference | object | union | array => rw [ht] at h; cases h

theorem walkTable_other {t : Table} (hr : t.type.isRecord = false) (ho : t.type.isRoot = false) :
    walkTable t = .error (.unsupportedRoot t.name t.type.kindName) := by
  unfold walkTable
  cases ht : t.type with
  | record => rw [ht] at hr; cases hr
  | object | union => rw [ht] at ho; cases ho
  | primitive | literal | reference | array => rfl

theorem walkTable_ok_iff {t : Table} : (∃ w, walkTable t = .ok w) ↔ Drawable t := by
  constructor
  · rintro ⟨w, hw⟩
    rcases ho : t.type.isRoot with _ | _
    · rcases hr : t.type.isRecord with _ | _
      · rw [walkTable_other hr ho] at hw; cases hw
      · rw [walkTable_record hr] at hw; cases hw
    · rw [walkTable_root ho] at hw
      exact ⟨ho, walk_ok_iff.1 ⟨w, hw⟩⟩
  · rintro ⟨ho, hf⟩
    rw [walkTable_root ho]
    exact walk_ok_iff.2 hf

/-- The error that a table gives behind tables of the names `earlier`. -/
def tableFault? (earlier : List String) (t : Table) : Option Error :=
  if t.name ∈ earlier then some (.duplicateTable t.name) else fault? (walkTable t)

theorem tableFault?_eq_none_iff {earlier : List String} {t : Table} :
    tableFault? earlier t = none ↔ t.name ∉ earlier ∧ Drawable t := by
  unfold tableFault?
  by_cases hd : t.name ∈ earlier
  · simp [hd]
  · simp [hd, fault?_eq_none_iff, walkTable_ok_iff]

theorem tableFault?_eq_some_iff {earlier : List String} {t : Table} {e : Error} :
    tableFault? earlier t = some e ↔ Held earlier t e := by
  unfold tableFault?
  constructor
  · intro h
    by_cases hd : t.name ∈ earlier
    · rw [if_pos hd] at h; cases h
      exact .duplicate hd
    · rw [if_neg hd] at h
      rcases ho : t.type.isRoot with _ | _
      · rcases hr : t.type.isRecord with _ | _
        · rw [walkTable_other hr ho] at h; cases h; exact .root hd hr ho
        · rw [walkTable_record hr] at h; cases h; exact .recordRoot hd hr
      · rw [walkTable_root ho, fault?_walk] at h
        obtain ⟨x, hx, rfl⟩ := Option.map_eq_some_iff.1 h
        obtain ⟨hr, before, after, hp, hb⟩ := List.find?_eq_some_iff_append.1 hx
        exact .record hd ho hp (by simpa using hb) hr
  · rintro (hd | ⟨hd, hr⟩ | ⟨hd, hr, ho⟩ | ⟨hd, ho, hp, hb, hx⟩)
    · rw [if_pos hd]
    · rw [if_neg hd, walkTable_record hr]; rfl
    · rw [if_neg hd, walkTable_other hr ho]; rfl
    · rename_i before after x
      have hf : t.type.firstRecord? = some x :=
        List.find?_eq_some_iff_append.2 ⟨hx, before, after, hp, by simpa using hb⟩
      rw [if_neg hd, walkTable_root ho, fault?_walk, hf]; rfl

/-! ## All tables -/

theorem drawTables_walks : ∀ {ts : List Table} {seen : List String} {d : Drawing}, drawTables seen ts = .ok d →
    ∃ ws, List.Forall₂ (fun t w => walkTable t = .ok w) ts ws ∧
      d = ⟨ws.map Walk.events, (ws.map Walk.edges).flatten⟩
  | [], _, _, h => by cases h; exact ⟨[], .nil, rfl⟩
  | t :: rest, seen, d, h => by
    rw [drawTables] at h
    split at h
    · cases h
    · rcases hw : walkTable t with e | w
      · rw [hw] at h; cases h
      · rw [hw] at h
        rcases hr : drawTables (t.name :: seen) rest with e | others
        · rw [hr] at h; cases h
        · rw [hr] at h; cases h
          obtain ⟨ws, hws, rfl⟩ := drawTables_walks hr
          exact ⟨w :: ws, .cons hw hws, rfl⟩

/-- A drawing holds the walks of the tables, one after the other, each under the name of its table. -/
theorem draw_walks {s : Schema} {d : Drawing} (h : draw s = .ok d) :
    ∃ ws, List.Forall₂ (fun t w => t.type.isRoot = true ∧ walk (.root t.name) t.type = .ok w) s.tables ws ∧
      d = ⟨ws.map Walk.events, (ws.map Walk.edges).flatten⟩ := by
  obtain ⟨ws, hws, rfl⟩ := drawTables_walks h
  refine ⟨ws, hws.imp fun t w hw => ?_, rfl⟩
  have ho := (walkTable_ok_iff.1 ⟨w, hw⟩).root
  exact ⟨ho, walkTable_root ho ▸ hw⟩

/-- What lists related element by element have in all elements, when related elements have it together. -/
theorem forall_mem_iff_of_forall₂ {α β : Type} {R : α → β → Prop} {P : α → Prop} {Q : β → Prop} {l : List α}
    {u : List β} (h : List.Forall₂ R l u) (hR : ∀ a b, R a b → (P a ↔ Q b)) : (∀ a ∈ l, P a) ↔ ∀ b ∈ u, Q b := by
  induction h with
  | nil => simp
  | cons hab _ ih => rw [List.forall_mem_cons, List.forall_mem_cons, hR _ _ hab, ih]

/-- What all elements have that are related to something, all elements of related lists have. -/
theorem forall_mem_of_forall₂ {α β : Type} {R : α → β → Prop} {Q : β → Prop} {l : List α} {u : List β}
    (h : List.Forall₂ R l u) (hR : ∀ a b, R a b → Q b) : ∀ b ∈ u, Q b := by
  induction h with
  | nil => simp
  | cons hab _ ih => exact List.forall_mem_cons.2 ⟨hR _ _ hab, ih⟩

/-! ## The first fault -/

theorem fault?_drawTables_cons (seen : List String) (t : Table) (rest : List Table) :
    fault? (drawTables seen (t :: rest)) = (tableFault? seen t).or (fault? (drawTables (t.name :: seen) rest)) := by
  rw [drawTables, tableFault?]
  by_cases hd : t.name ∈ seen
  · rw [if_pos hd, if_pos hd]; rfl
  · rw [if_neg hd, if_neg hd]
    exact fault?_both ..

theorem fault?_drawTables_append (b : List Table) : ∀ (seen : List String) (a : List Table),
    fault? (drawTables seen (a ++ b)) =
      (fault? (drawTables seen a)).or (fault? (drawTables ((a.map (·.name)).reverse ++ seen) b))
  | _, [] => rfl
  | seen, t :: a => by
    rw [List.cons_append, fault?_drawTables_cons, fault?_drawTables_cons, fault?_drawTables_append b, Option.or_assoc]
    simp

theorem fault?_drawTables_eq_none_iff : ∀ {seen : List String} {ts : List Table},
    fault? (drawTables seen ts) = none ↔ DrawableAll ts ∧ ∀ t ∈ ts, t.name ∉ seen
  | _, [] => ⟨fun _ => ⟨⟨List.nodup_nil, by simp⟩, by simp⟩, fun _ => rfl⟩
  | seen, t :: rest => by
    rw [fault?_drawTables_cons, Option.or_eq_none_iff, tableFault?_eq_none_iff, fault?_drawTables_eq_none_iff]
    constructor
    · rintro ⟨⟨hs, hd⟩, ⟨hn, he⟩, hr⟩
      refine ⟨⟨List.nodup_cons.2 ⟨?_, hn⟩, List.forall_mem_cons.2 ⟨hd, he⟩⟩, List.forall_mem_cons.2 ⟨hs, ?_⟩⟩
      · intro hm
        obtain ⟨u, hu, hname⟩ := List.mem_map.1 hm
        exact hr u hu (hname ▸ List.mem_cons_self ..)
      · exact fun u hu hm => hr u hu (List.mem_cons_of_mem _ hm)
    · rintro ⟨⟨hn, he⟩, hs⟩
      obtain ⟨hnt, hn⟩ := List.nodup_cons.1 hn
      obtain ⟨hd, he⟩ := List.forall_mem_cons.1 he
      obtain ⟨hst, hs⟩ := List.forall_mem_cons.1 hs
      refine ⟨⟨hst, hd⟩, ⟨hn, he⟩, fun u hu hm => ?_⟩
      rcases List.mem_cons.1 hm with hname | hm
      · exact hnt (List.mem_map.2 ⟨u, hu, hname⟩)
      · exact hs u hu hm

/-- The first table with a fault decides. -/
theorem fault?_drawTables_eq_some_iff {seen : List String} {ts : List Table} {e : Error} :
    fault? (drawTables seen ts) = some e ↔ ∃ before t after, ts = before ++ t :: after ∧
      fault? (drawTables seen before) = none ∧ tableFault? ((before.map (·.name)).reverse ++ seen) t = some e := by
  constructor
  · intro h
    induction ts generalizing seen with
    | nil => cases h
    | cons t rest ih =>
      rw [fault?_drawTables_cons] at h
      rcases hf : tableFault? seen t with _ | f
      · rw [hf, Option.none_or] at h
        obtain ⟨before, u, after, rfl, hb, hu⟩ := ih h
        refine ⟨t :: before, u, after, rfl, ?_, by simpa using hu⟩
        rw [fault?_drawTables_cons, hf, hb]; rfl
      · rw [hf, Option.some_or] at h; cases h
        exact ⟨[], t, rest, rfl, rfl, hf⟩
  · rintro ⟨before, t, after, rfl, hb, ht⟩
    rw [fault?_drawTables_append, hb, fault?_drawTables_cons, ht]; rfl

theorem draw_ok_iff {s : Schema} : (∃ d, draw s = .ok d) ↔ DrawableAll s.tables := by
  rw [draw, ← fault?_eq_none_iff, fault?_drawTables_eq_none_iff]
  simp

theorem draw_error_iff {s : Schema} {e : Error} : draw s = .error e ↔
    ∃ before t after, s.tables = before ++ t :: after ∧ DrawableAll before ∧ Held (before.map (·.name)) t e := by
  -- in which order the names were seen does not matter
  have hsame : ∀ (names : List String) (t : Table), tableFault? (names.reverse ++ []) t = tableFault? names t := by
    intro names t; simp [tableFault?]
  rw [draw, ← fault?_eq_some_iff, fault?_drawTables_eq_some_iff]
  simp only [hsame, tableFault?_eq_some_iff, fault?_drawTables_eq_none_iff, List.not_mem_nil, not_false_eq_true,
    implies_true, and_true]

/-- A schema is drawn, and has a flowchart, exactly when all its tables can be drawn together; otherwise the
first table that cannot be drawn behind those before it decides on the error. -/
theorem draw_faults (s : Schema) :
    ((∃ d, draw s = .ok d) ↔ DrawableAll s.tables) ∧
      ((∃ text, flowchart s = .ok text) ↔ DrawableAll s.tables) ∧
      (∀ e, draw s = .error e ↔ ∃ before t after, s.tables = before ++ t :: after ∧ DrawableAll before ∧
        Held (before.map (·.name)) t e) ∧
      ∀ e, flowchart s = .error e ↔ draw s = .error e := by
  refine ⟨draw_ok_iff, ?_, fun e => draw_error_iff, fun e => ?_⟩
  · rw [← draw_ok_iff, ← fault?_eq_none_iff, ← fault?_eq_none_iff, flowchart, fault?_map]
  · rw [← fault?_eq_some_iff, ← fault?_eq_some_iff, flowchart, fault?_map]

end Diagram

end SchemaChart
