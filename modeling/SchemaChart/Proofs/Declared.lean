/-
Schemas declared in JSON and read back. The tables stand in a list of entries, where names may repeat, or each under
its name, where they cannot; the validators may have any written form. Either way reading gives back the tables in
their order (`ofJson_declared`). A table that is called like the member that holds the list is no exception: its
validator is no list.
-/
import SchemaChart.Proofs.Tables
import SchemaChart.Proofs.Written
import SchemaChart.Schema.Source

namespace SchemaChart

open Validator

/-- Elements read one by one, each as something related to its counterpart. -/
theorem mapM_of_forall₂ {α β γ ε : Type} {R : α → β → Prop} {S : α → γ → Prop} {f : β → Except ε γ} {l : List α}
    {u : List β} (h : List.Forall₂ R l u) (hf : ∀ a b, R a b → ∃ c, f b = .ok c ∧ S a c) :
    ∃ w, u.mapM f = .ok w ∧ List.Forall₂ S l w := by
  induction h with
  | nil => exact ⟨[], rfl, .nil⟩
  | @cons a b l u hab _ ih =>
    obtain ⟨c, hc, hac⟩ := hf a b hab
    obtain ⟨w, hw, hlw⟩ := ih
    exact ⟨c :: w, by rw [List.mapM_cons, hc, hw]; rfl, .cons hac hlw⟩

/-! ## One table -/

/-- A value that denotes a type is an object. -/
theorem exists_members_of_denotes {v : Json} {type : TypeTree} (h : Denotes v type) : ∃ members, v = .obj members := by
  obtain ⟨name, hname⟩ := h.exists_type
  obtain ⟨members, hmembers, -⟩ := Json.get?_eq_some_iff.1 hname
  exact ⟨members, hmembers⟩

namespace Declaration

/-- A declaration of a table: its name and a validator that denotes its type. -/
structure Declares (t : Table) (d : Declaration) : Prop where
  name : d.name = t.name
  validator : Denotes (.obj d.validator) t.type

theorem table_of_declares {t : Table} {d : Declaration} (h : Declares t d) : d.table = .ok t := by
  rw [table, readType_of_denotes h.validator, h.name]
  rfl

theorem make_of_denotes {t : Table} {v : Json} (h : Denotes v t.type) :
    ∃ d, make (.str t.name) v = .ok d ∧ Declares t d := by
  obtain ⟨members, rfl⟩ := exists_members_of_denotes h
  exact ⟨⟨t.name, members⟩, rfl, rfl, h⟩

/-- An item for a table in a list of tables. -/
structure DeclaresItem (t : Table) (item : Json) : Prop where
  name : item.get? "tableName" = some (.str t.name)
  type : ∃ v, item.get? "documentType" = some v ∧ Denotes v t.type

/-- A validator under the name of its table. -/
structure DeclaresMember (t : Table) (p : String × Json) : Prop where
  name : p.1 = t.name
  type : Denotes p.2 t.type

theorem ofEntry_of_declaresItem {t : Table} {item : Json} (h : DeclaresItem t item) :
    ∃ d, ofEntry item = .ok d ∧ Declares t d := by
  obtain ⟨v, htype, hv⟩ := h.type
  obtain ⟨d, hd, hdeclares⟩ := make_of_denotes hv
  refine ⟨d, ?_, hdeclares⟩
  rw [ofEntry, h.name, htype]
  simp only [hd]
  rfl

theorem make_of_declaresMember {t : Table} {p : String × Json} (h : DeclaresMember t p) :
    ∃ d, (make (.str p.1) p.2).mapError Error.refused = .ok d ∧ Declares t d := by
  obtain ⟨d, hd, hdeclares⟩ := make_of_denotes h.type
  exact ⟨d, by rw [h.name, hd]; rfl, hdeclares⟩

theorem keys_of_declaresMember {ts : List Table} {pairs : List (String × Json)}
    (h : List.Forall₂ DeclaresMember ts pairs) : Dictionary.keys pairs = ts.map (·.name) := by
  induction h with
  | nil => rfl
  | cons hp _ ih => rw [List.map_cons, ← ih, ← hp.name]; rfl

/-- An entry for a table in a list of tables, with a written form of its type. -/
structure IsEntry (t : Table) (entry : Json) : Prop where
  name : entry.get? "tableName" = some (.str t.name)
  type : ∃ v, entry.get? "documentType" = some v ∧ Written t.type v

theorem IsEntry.declares {t : Table} {entry : Json} (h : IsEntry t entry) : DeclaresItem t entry := by
  obtain ⟨v, htype, hv⟩ := h.type
  exact ⟨h.name, v, htype, denotes_of_written hv⟩

/-- A written form of a type under the name of its table. -/
structure IsPair (t : Table) (p : String × Json) : Prop where
  name : p.1 = t.name
  type : Written t.type p.2

theorem IsPair.declares {t : Table} {p : String × Json} (h : IsPair t p) : DeclaresMember t p :=
  ⟨h.name, denotes_of_written h.type⟩

/-- Objects are not taken for a list of tables, under whatever name they stand. -/
theorem readAll_of_objects {pairs : List (String × Json)} (h : ∀ p ∈ pairs, ∃ members, p.2 = .obj members) :
    readAll (.obj pairs) = pairs.mapM fun p => (make (.str p.1) p.2).mapError Error.refused := by
  rw [readAll]
  split
  · rename_i entries hlookup
    obtain ⟨before, after, rfl, -⟩ := List.lookup_eq_some_iff.1 hlookup
    obtain ⟨members, hm⟩ := h ("tables", .arr entries) (by simp)
    cases hm
  · rfl

end Declaration

/-! ## All tables -/

namespace Schema

open Declaration

theorem ofJson_of_declares {s : Schema} {doc : Json} {ds : List Declaration} (hread : readAll doc = .ok ds)
    (h : List.Forall₂ Declares s.tables ds) : ofJson doc = .ok s := by
  obtain ⟨tables, htables, heq⟩ := mapM_of_forall₂ (S := Eq) h fun t d hd => ⟨t, table_of_declares hd, rfl⟩
  rw [List.forall₂_eq_eq_eq] at heq
  have hbuild : build ds = .ok s := by
    rw [build, ofDeclarations, htables, ← heq]
    rfl
  rw [ofJson, Declaration.ofJson, hread]
  exact hbuild

theorem ofJson_of_items {s : Schema} {doc : Json} {items : List Json} (htables : doc.get? "tables" = some (.arr items))
    (h : List.Forall₂ DeclaresItem s.tables items) : ofJson doc = .ok s := by
  obtain ⟨members, rfl, hlookup⟩ := Json.get?_eq_some_iff.1 htables
  obtain ⟨ds, hread, hdeclares⟩ := mapM_of_forall₂ h fun _ _ hi => ofEntry_of_declaresItem hi
  refine ofJson_of_declares ?_ hdeclares
  rw [readAll, hlookup]
  exact hread

theorem ofJson_of_members {s : Schema} {pairs : List (String × Json)}
    (h : List.Forall₂ DeclaresMember s.tables pairs) : ofJson (.obj pairs) = .ok s := by
  have hobjects : ∀ p ∈ pairs, ∃ members, p.2 = .obj members :=
    Diagram.forall_mem_of_forall₂ h fun t p hp => exists_members_of_denotes hp.type
  obtain ⟨ds, hread, hdeclares⟩ := mapM_of_forall₂ h fun _ _ hp => make_of_declaresMember hp
  exact ofJson_of_declares ((readAll_of_objects hobjects).trans hread) hdeclares

/-- Whether a value lists the tables of a schema in its `tables`. -/
def ListedIn (s : Schema) (doc : Json) : Prop :=
  ∃ entries, doc.get? "tables" = some (.arr entries) ∧ List.Forall₂ IsEntry s.tables entries

/-- Whether a value holds the types of a schema under the names of their tables. -/
def MappedIn (s : Schema) (doc : Json) : Prop :=
  ∃ pairs, List.Forall₂ IsPair s.tables pairs ∧ doc = .obj (Dictionary.ofPairs pairs)

theorem ofJson_of_listedIn {s : Schema} {doc : Json} (h : ListedIn s doc) : ofJson doc = .ok s := by
  obtain ⟨entries, htables, hentries⟩ := h
  exact ofJson_of_items htables (hentries.imp fun _ _ he => he.declares)

theorem ofJson_of_mappedIn {s : Schema} {doc : Json} (hn : s.names.Nodup) (h : MappedIn s doc) :
    ofJson doc = .ok s := by
  obtain ⟨pairs, hpairs, rfl⟩ := h
  have hmembers : List.Forall₂ DeclaresMember s.tables pairs := hpairs.imp fun _ _ hp => hp.declares
  rw [Dictionary.ofPairs_of_nodup (by rw [keys_of_declaresMember hmembers]; exact hn)]
  exact ofJson_of_members hmembers

theorem exists_listedIn (s : Schema) : ∃ doc, ListedIn s doc := by
  refine ⟨.obj [("tables", .arr (s.tables.map fun t =>
    .obj [("tableName", .str t.name), ("documentType", write t.type)]))], _, rfl, ?_⟩
  rw [List.forall₂_map_right_iff, List.forall₂_same]
  exact fun t _ => ⟨rfl, _, rfl, written_write t.type⟩

theorem exists_mappedIn (s : Schema) : ∃ doc, MappedIn s doc := by
  refine ⟨_, s.tables.map fun t => (t.name, write t.type), ?_, rfl⟩
  rw [List.forall₂_map_right_iff, List.forall₂_same]
  exact fun t _ => ⟨rfl, written_write t.type⟩

/-- Every schema can be declared by a list of its tables, and whichever written forms its types have there, the schema
is what is read. If the names of its tables are distinct, the same holds of an object with the types under the names. -/
theorem ofJson_declared (s : Schema) :
    ((∃ doc, ListedIn s doc) ∧ ∀ doc, ListedIn s doc → ofJson doc = .ok s) ∧
      (s.names.Nodup → (∃ doc, MappedIn s doc) ∧ ∀ doc, MappedIn s doc → ofJson doc = .ok s) :=
  ⟨⟨exists_listedIn s, fun _ h => ofJson_of_listedIn h⟩,
    fun hn => ⟨exists_mappedIn s, fun _ h => ofJson_of_mappedIn hn h⟩⟩

/-- A table named like the list of tables, with every kind of type in it and a whole number encoded; and the same table
twice in a list. -/
theorem ofJson_declared_tables :
    let type : TypeTree := .union [.object [⟨"a", true, .record (.primitive .number) (.array (.reference "tables"))⟩],
      .literal (.int (-1))]
    let v : Json := .obj [("type", .str "union"), ("value", .arr [
      .obj [("type", .str "object"), ("value", .obj [("a", .obj [("optional", .bool true), ("fieldType",
        .obj [("type", .str "record"), ("keys", .obj [("type", .str "float64")]), ("values", .obj [("fieldType",
          .obj [("type", .str "array"), ("value", .obj [("type", .str "id"), ("tableName", .str "tables")])]),
          ("optional", .bool false)])])])])],
      .obj [("type", .str "literal"), ("value", .obj [("$integer", .str "//////////8=")])]])]
    let entry : Json := .obj [("tableName", .str "tables"), ("indexes", .arr []), ("documentType", v)]
    ofJson (.obj [("tables", v)]) = .ok ⟨[⟨"tables", type⟩]⟩ ∧
      ofJson (.obj [("tables", .arr [entry, entry])]) = .ok ⟨[⟨"tables", type⟩, ⟨"tables", type⟩]⟩ := by
  intro type v entry
  have hv : Written type v :=
    .union rfl rfl (.cons (.object rfl rfl (.cons rfl rfl (.record rfl rfl rfl rfl (.primitive (by decide) rfl)
      (.array rfl rfl (.reference rfl rfl))) .nil)) (.cons (.literal rfl rfl (.encoded ⟨by decide, by decide⟩)) .nil))
  have hentry : IsEntry ⟨"tables", type⟩ entry := ⟨rfl, v, rfl, hv⟩
  constructor
  · have hmapped : MappedIn ⟨[⟨"tables", type⟩]⟩ (.obj [("tables", v)]) := ⟨[("tables", v)], .cons ⟨rfl, hv⟩ .nil, rfl⟩
    exact ((ofJson_declared ⟨[⟨"tables", type⟩]⟩).2 (by decide)).2 _ hmapped
  · exact (ofJson_declared ⟨[⟨"tables", type⟩, ⟨"tables", type⟩]⟩).1.2 _
      ⟨[entry, entry], rfl, .cons hentry (.cons hentry .nil)⟩

end Schema

end SchemaChart
