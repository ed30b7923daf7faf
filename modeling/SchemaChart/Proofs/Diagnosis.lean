/-
All that is wrong with a schema in JSON. The defects are listed in three phases: of the entries that declare tables, of
the validators of the entries that can be read, and of the tables of the validators that denote a type; in each phase
in the order of the tables, and in every table as a reader meets them (`Schema.defects`). Making a flowchart stops at
the first of them (`chartOf_first_defect`), and there is a flowchart when there are none.
-/
import SchemaChart.Proofs.Defects
import SchemaChart.Proofs.Tables
import SchemaChart.Schema.Source

namespace SchemaChart

/-! ## Entries -/

namespace Declaration

/-- A place that declares a table: an item of a list of tables, or a validator under the name of its table. -/
inductive Entry where
  | listed (entry : Json)
  | named (name : String) (validator : Json)

/-- The entries of an object: the items of its `tables` if that is a list, and else its members. -/
def entries? : Json → Option (List Entry)
  | .obj members =>
    match members.lookup "tables" with
    | some (.arr items) => some (items.map .listed)
    | _ => some (members.map fun p => .named p.1 p.2)
  | _ => none

/-- The objection to the name of a table. -/
def nameObjections : Json → List Objection
  | .str _ => []
  | _ => [Refusal.object .name .text]

/-- The objection to the validator of a table. -/
def validatorObjections : Json → List Objection
  | .obj _ => []
  | _ => [Refusal.object .documentType .object]

/-- What is wrong with a name and a validator: all objections together, if there are any. -/
def objection? (name validator : Json) : Option Error :=
  if nameObjections name ++ validatorObjections validator = [] then none
  else some (.refused ⟨.declaration, nameObjections name ++ validatorObjections validator⟩)

namespace Entry

/-- What is wrong with an entry, whatever is inside its validator. -/
def defect? : Entry → Option Error
  | .listed entry =>
    match entry.get? "tableName", entry.get? "documentType" with
    | some name, some validator => objection? name validator
    | _, _ => some (.fault (.badEntry entry))
  | .named name validator => objection? (.str name) validator

/-- The declaration that an entry is read as. -/
def read : Entry → Except Error Declaration
  | .listed entry => ofEntry entry
  | .named name validator => (make (.str name) validator).mapError .refused

end Entry

theorem fault?_make (name validator : Json) :
    fault? ((make name validator).mapError Error.refused) = objection? name validator := by
  unfold make objection?
  cases name with
  | str n => cases validator <;> rfl
  | null | bool | int | real | arr | obj => cases validator <;> rfl

theorem Entry.fault?_read (e : Entry) : fault? e.read = e.defect? := by
  cases e with
  | listed entry =>
    rw [read, ofEntry, defect?]
    rcases entry.get? "tableName" with _ | name
    · rfl
    · rcases entry.get? "documentType" with _ | validator
      · rfl
      · exact fault?_make name validator
  | named name validator => exact fault?_make (.str name) validator

theorem readAll_eq (v : Json) : readAll v =
    match entries? v with
    | none => .error (.fault .notObject)
    | some entries => entries.mapM Entry.read := by
  cases v with
  | obj members =>
    rw [readAll, entries?]
    have hnamed : (members.mapM fun p => (make (.str p.1) p.2).mapError Error.refused) =
        (members.map fun p => Entry.named p.1 p.2).mapM Entry.read := by rw [List.mapM_map]; rfl
    rcases members.lookup "tables" with _ | x
    · exact hnamed
    · cases x with
      | arr items =>
        show items.mapM ofEntry = (items.map Entry.listed).mapM Entry.read
        rw [List.mapM_map]
        rfl
      | null | bool | int | real | str | obj => exact hnamed
  | null | bool | int | real | str | arr => rfl

/-- All defects of the entries of a value. -/
def defects (v : Json) : List Error :=
  match entries? v with
  | none => [.fault .notObject]
  | some entries => entries.filterMap Entry.defect?

/-- The declarations of a value that can be read. -/
def readable (v : Json) : List Declaration :=
  match entries? v with
  | none => []
  | some entries => entries.filterMap fun e => e.read.toOption

theorem fault?_readAll (v : Json) : fault? (readAll v) = (defects v).head? := by
  rw [readAll_eq, defects]
  rcases entries? v with _ | entries
  · rfl
  · have hread : ∀ e ∈ entries, fault? (Entry.read e) = e.defect?.toList.head? := fun e _ => by
      rw [e.fault?_read]
      cases e.defect? <;> rfl
    show fault? (entries.mapM Entry.read) = (entries.filterMap Entry.defect?).head?
    rw [fault?_mapM_eq_head? hread, List.filterMap_eq_flatMap_toList]

theorem readable_of_readAll {v : Json} {ds : List Declaration} (h : readAll v = .ok ds) : readable v = ds := by
  rw [readAll_eq] at h
  unfold readable
  rcases hentries : entries? v with _ | entries
  · rw [hentries] at h; cases h
  · rw [hentries] at h
    exact filterMap_toOption_of_mapM h

/-- All defects of the validator of a declaration. -/
def validatorDefects (d : Declaration) : List Validator.Error := Validator.defects (.obj d.validator)

theorem fault?_table (d : Declaration) : fault? d.table = d.validatorDefects.head? := by
  rw [table, fault?_map]
  exact Validator.fault?_readType _

end Declaration

/-! ## Tables -/

namespace Diagram

open TypeTree

/-- What is wrong with a type as the type of a table, besides the records in it. -/
def rootFaults (t : Table) : List Error :=
  if t.type.isRoot || t.type.isRecord then [] else [.unsupportedRoot t.name t.type.kindName]

/-- All that is wrong with a table behind tables of the names `earlier`: its name is taken, it is neither an object nor
a union, and records, which may be the table itself or inside it. -/
def tableFaults (earlier : List String) (t : Table) : List Error :=
  (if t.name ∈ earlier then [.duplicateTable t.name] else []) ++ rootFaults t ++
    (t.type.places.filter (·.type.isRecord)).map (recordFault (.root t.name))

/-- All that is wrong with tables, the names `earlier` being taken before the first of them. -/
def faults (earlier : List String) : List Table → List Error
  | [] => []
  | t :: rest => tableFaults earlier t ++ faults (t.name :: earlier) rest

theorem fault?_walkTable (t : Table) : fault? (walkTable t) =
    (rootFaults t ++ (t.type.places.filter (·.type.isRecord)).map (recordFault (.root t.name))).head? := by
  unfold rootFaults
  rcases ho : t.type.isRoot with _ | _
  · rcases hr : t.type.isRecord with _ | _
    · rw [walkTable_other hr ho]; rfl
    · -- a record is the first place of itself
      have hfirst : t.type.places.filter (·.type.isRecord) = [t.type.top] := by
        cases ht : t.type with
        | record key value => rfl
        | primitive | literal | reference | object | union | array => rw [ht] at hr; cases hr
      rw [walkTable_record hr, hfirst]
      rfl
  · rw [walkTable_root ho, fault?_walk, firstRecord?, ← List.head?_filter]
    simp

theorem tableFault?_eq (earlier : List String) (t : Table) :
    tableFault? earlier t = (tableFaults earlier t).head? := by
  unfold tableFault? tableFaults
  by_cases hd : t.name ∈ earlier
  · rw [if_pos hd, if_pos hd]; rfl
  · rw [if_neg hd, if_neg hd, fault?_walkTable]; rfl

theorem fault?_drawTables (ts : List Table) : ∀ earlier : List String,
    fault? (drawTables earlier ts) = (faults earlier ts).head? := by
  induction ts with
  | nil => intro earlier; rfl
  | cons t rest ih =>
    intro earlier
    rw [fault?_drawTables_cons, faults, List.head?_append, tableFault?_eq, ih]

end Diagram

/-! ## Schemas -/

namespace Schema

/-- The flowchart of the schema that a value declares. -/
def chartOf (v : Json) : Except Failure String := do
  let s ← ofJson v
  s.chart

/-- All defects of the entries and the validators of a value. -/
def malformed (v : Json) : List Failure :=
  (Declaration.defects v).map Failure.ofDeclaration ++
    ((Declaration.readable v).flatMap Declaration.validatorDefects).map Failure.ofValidator

/-- All that is wrong with the tables of a value that can be read. -/
def undrawable (v : Json) : List Failure :=
  (Diagram.faults [] ((Declaration.readable v).filterMap fun d => d.table.toOption)).map Failure.diagram

/-- All that is wrong with a schema in JSON. -/
def defects (v : Json) : List Failure := malformed v ++ undrawable v

theorem fault?_ofJson (v : Json) : fault? (ofJson v) = (malformed v).head? := by
  refine fault?_bind ?_ fun ds hds => ?_
  · rw [Declaration.ofJson, fault?_mapError, Declaration.fault?_readAll, List.head?_map]
  · rw [Declaration.readable_of_readAll (mapError_eq_ok_iff.1 hds), build, fault?_mapError, ofDeclarations, fault?_map,
      fault?_mapM_eq_head? fun d _ => d.fault?_table, List.head?_map]

theorem undrawable_of_ofJson {v : Json} {s : Schema} (h : ofJson v = .ok s) :
    undrawable v = (Diagram.faults [] s.tables).map Failure.diagram := by
  rcases hds : Declaration.ofJson v with e | ds
  · rw [ofJson, hds] at h; cases h
  · rw [ofJson, hds] at h
    obtain ⟨tables, htables, rfl⟩ := map_eq_ok_iff.1 (mapError_eq_ok_iff.1 (show build ds = .ok s from h))
    rw [undrawable, Declaration.readable_of_readAll (mapError_eq_ok_iff.1 hds), filterMap_toOption_of_mapM htables]

theorem fault?_chartOf (v : Json) : fault? (chartOf v) = (defects v).head? := by
  refine fault?_bind (fault?_ofJson v) fun s hs => ?_
  rw [undrawable_of_ofJson hs, chart, fault?_mapError, Diagram.flowchart, fault?_map, Diagram.draw,
    Diagram.fault?_drawTables, List.head?_map]

theorem not_diagram_of_mem_malformed {v : Json} {f : Failure} (h : f ∈ malformed v) (e : Diagram.Error) :
    f ≠ .diagram e := by
  rcases List.mem_append.1 h with h | h
  · obtain ⟨error, -, rfl⟩ := List.mem_map.1 h
    cases error <;> simp [Failure.ofDeclaration]
  · obtain ⟨error, -, rfl⟩ := List.mem_map.1 h
    cases error <;> simp [Failure.ofValidator]

/-- Making the flowchart of a value stops at the first of its defects, and succeeds when it has none. The first
malformed entry counts before all malformed validators, and the first malformed validator before all that is held
against tables that can be read. -/
theorem chartOf_first_defect (v : Json) :
    (∀ e, chartOf v = .error e ↔ (defects v).head? = some e) ∧
      ((∃ text, chartOf v = .ok text) ↔ defects v = []) ∧
      (∀ e, Declaration.ofJson v = .error e ↔ ((Declaration.defects v).map Failure.ofDeclaration).head? = some e) ∧
      (∀ e, ofJson v = .error e ↔ (malformed v).head? = some e) ∧
      ∀ e, chartOf v = .error (.diagram e) → ∃ s, ofJson v = .ok s := by
  refine ⟨fun e => ?_, ?_, fun e => ?_, fun e => ?_, fun e h => ?_⟩
  · rw [← fault?_eq_some_iff, fault?_chartOf]
  · rw [← fault?_eq_none_iff, fault?_chartOf, List.head?_eq_none_iff]
  · rw [← fault?_eq_some_iff, Declaration.ofJson, fault?_mapError, Declaration.fault?_readAll, List.head?_map]
  · rw [← fault?_eq_some_iff, fault?_ofJson]
  · rcases hs : ofJson v with f | s
    · -- what stops the reading is no matter of a diagram
      rw [chartOf, hs] at h; cases h
      rw [← fault?_eq_some_iff, fault?_ofJson] at hs
      exact absurd rfl (not_diagram_of_mem_malformed (List.mem_of_head? hs) e)
    · exact ⟨s, rfl⟩

end Schema

end SchemaChart
