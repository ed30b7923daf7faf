/-
No table lost between a file and its flowchart. Of the tables that the text of a file declares, each is shown by a group
at the outermost level, in the order of the text, and a name that two of them bear is reported (`Keeps`). A list of
tables is kept whatever their names are. An object with the tables under their names is read with one member for each
name, so its tables are kept exactly when no name is written twice; else all but the last one of that name are lost and
a flowchart of the others comes out (`keeps_tables_of_file`).
-/
import SchemaChart.Proofs.Declared
import SchemaChart.Proofs.Members
import SchemaChart.Proofs.Nesting
import Mathlib.Data.List.Forall2

namespace SchemaChart

/-! ## Tables shown -/

namespace Diagram

open TypeTree

/-- The block of events of a table: one group, with the name of the table. -/
def IsBlockOf (t : Table) (block : List Event) : Prop :=
  ∃ inner, Balanced inner ∧ block = groupEvents ⟨t.name, t.name, .group, t.name, none⟩ inner

/-- A flowchart whose outermost groups are those of the given tables, in order. -/
def ShowsTables (ts : List Table) (text : String) : Prop :=
  ∃ d : Drawing, text = d.flowchart ∧ List.Forall₂ IsBlockOf ts d.blocks

theorem placeNode_root {name : String} {t : TypeTree} (h : t.isGroup = true) :
    placeNode (Path.root name).names t = ⟨name, name, .group, name, none⟩ := by
  cases t with
  | object | union | array => rfl
  | primitive | literal | reference | record => cases h

theorem draw_blocks {ts : List Table} {d : Drawing} (h : draw ⟨ts⟩ = .ok d) :
    List.Forall₂ IsBlockOf ts d.blocks := by
  obtain ⟨ws, hws, rfl⟩ := draw_walks h
  rw [List.forall₂_map_right_iff]
  refine hws.imp fun t w ⟨hroot, hw⟩ => ?_
  have hgroup := isGroup_of_isRoot hroot
  obtain ⟨inner, hi, he⟩ := (walk_balanced hw).2 hgroup
  rw [placeNode_root hgroup] at he
  exact ⟨inner, hi, he⟩

/-- What stops the drawing of tables that can be drawn by themselves is the first name that is taken. -/
theorem held_of_drawable {earlier : List String} {t : Table} {e : Error} (ht : Drawable t) (h : Held earlier t e) :
    t.name ∈ earlier ∧ e = .duplicateTable t.name := by
  obtain ⟨hroot, hfree⟩ := ht
  cases h with
  | duplicate h => exact ⟨h, rfl⟩
  | recordRoot _ h => cases htype : t.type <;> simp [htype, isRecord, isRoot] at h hroot
  | root _ _ h =>
    rw [hroot] at h
    cases h
  | @record before after x _ _ hplaces _ h =>
    rw [hfree x (by rw [hplaces]; simp)] at h
    cases h

end Diagram

/-! ## Tables kept -/

open Diagram

/-- What comes out for tables if none is lost: a flowchart that shows all of them if their names are distinct, and else
an error for the first name that is borne by a table before. -/
structure Keeps (ts : List Table) (result : Except Failure String) : Prop where
  distinct : (ts.map (·.name)).Nodup → ∃ text, result = .ok text ∧ ShowsTables ts text
  repeated : ¬(ts.map (·.name)).Nodup → ∃ before t after, ts = before ++ t :: after ∧
    (before.map (·.name)).Nodup ∧ t.name ∈ before.map (·.name) ∧ result = .error (.diagram (.duplicateTable t.name))

/-- The flowchart of a schema loses no table if each of them can be drawn by itself. -/
theorem keeps_chart {ts : List Table} (h : ∀ t ∈ ts, Drawable t) : Keeps ts (Schema.chart ⟨ts⟩) := by
  constructor
  · intro hn
    obtain ⟨d, hd⟩ : ∃ d, draw ⟨ts⟩ = .ok d := draw_ok_iff.2 ⟨hn, h⟩
    refine ⟨d.flowchart, ?_, d, rfl, draw_blocks hd⟩
    rw [Schema.chart, flowchart, hd]
    rfl
  · intro hn
    rcases hd : draw ⟨ts⟩ with e | d
    · obtain ⟨before, t, after, hsplit, hbefore, hheld⟩ := draw_error_iff.1 hd
      obtain rfl : ts = before ++ t :: after := hsplit
      obtain ⟨hmem, rfl⟩ := held_of_drawable (h t (by simp)) hheld
      refine ⟨before, t, after, rfl, hbefore.names, hmem, ?_⟩
      rw [Schema.chart, flowchart, hd]
      rfl
    · exact absurd (draw_ok_iff.1 ⟨d, hd⟩).names hn

/-! ## Tables in text -/

open Declaration

/-- Members of an object that list tables: the items of every member that is called `tables`, all of which are lists. -/
def ListsTables (pairs : List (String × Json)) (ts : List Table) : Prop :=
  ∃ lists, lists ≠ [] ∧ pairs.filter (·.1 = "tables") = lists.map (fun items => ("tables", Json.arr items)) ∧
    List.Forall₂ DeclaresItem ts lists.flatten

/-- Members of an object that hold tables, each under its name. -/
def MapsTables (pairs : List (String × Json)) (ts : List Table) : Prop := List.Forall₂ DeclaresMember ts pairs

/-- The flowchart of the schema in a file. -/
def FileTree.chart (files : FileTree) (p : FilePath) : Except Failure String := do
  let s ← Schema.load files p
  s.chart

/-- A list of tables that is written once is read as it is written. -/
theorem ofJson_of_listsTables {pairs : List (String × Json)} {ts : List Table} (h : ListsTables pairs ts)
    (honce : (Dictionary.keys pairs).count "tables" = 1) :
    Schema.ofJson (.obj (Dictionary.ofPairs pairs)) = .ok ⟨ts⟩ := by
  obtain ⟨lists, -, hlists, hitems⟩ := h
  have hlength : lists.length = 1 := by
    have hcount : (Dictionary.keys pairs).count "tables" = (pairs.filter (·.1 = "tables")).length := by
      rw [Dictionary.keys, List.count_eq_countP, List.countP_map, List.countP_eq_length_filter]
      rfl
    rw [← honce, hcount, hlists, List.length_map]
  obtain ⟨items, rfl⟩ := List.length_eq_one_iff.1 hlength
  refine Schema.ofJson_of_items ?_ (by simpa using hitems)
  show (Dictionary.ofPairs pairs).lookup "tables" = _
  rw [Dictionary.lookup_ofPairs, hlists]
  rfl

theorem exists_forall₂ {α β : Type} {R : α → β → Prop} {P : α → Prop} {l : List β}
    (h : ∀ b ∈ l, ∃ a, P a ∧ R a b) : ∃ as, (∀ a ∈ as, P a) ∧ List.Forall₂ R as l := by
  induction l with
  | nil => exact ⟨[], List.forall_mem_nil _, .nil⟩
  | cons b l ih =>
    obtain ⟨hb, hl⟩ := List.forall_mem_cons.1 h
    obtain ⟨a, ha, hab⟩ := hb
    obtain ⟨as, has, hall⟩ := ih hl
    exact ⟨a :: as, List.forall_mem_cons.2 ⟨ha, has⟩, .cons hab hall⟩

/-- Whatever names are written twice, a flowchart comes out of an object with the tables under their names. -/
theorem chart_of_mapsTables {pairs : List (String × Json)} {ts : List Table} (h : MapsTables pairs ts)
    (hvalid : ∀ t ∈ ts, Drawable t) : ∃ s text, Schema.ofJson (.obj (Dictionary.ofPairs pairs)) = .ok s ∧
      s.chart = .ok text := by
  have hmembers : ∀ p ∈ Dictionary.ofPairs pairs, ∃ t, Drawable t ∧ DeclaresMember t p := fun p hp => by
    have hall : ∀ p ∈ pairs, ∃ t, Drawable t ∧ DeclaresMember t p :=
      forall_mem_of_forall₂ ((List.forall₂_and_left _ _).2 ⟨hvalid, h⟩) fun t _ ht => ⟨t, ht⟩
    exact hall p (Dictionary.mem_of_mem_ofPairs hp)
  obtain ⟨read, hdrawable, hread⟩ := exists_forall₂ hmembers
  have hnames : (read.map (·.name)).Nodup := by
    rw [← keys_of_declaresMember hread]
    exact Dictionary.nodup_keys_ofPairs pairs
  obtain ⟨text, htext, -⟩ := (keeps_chart hdrawable).distinct hnames
  exact ⟨⟨read⟩, text, Schema.ofJson_of_members hread, htext⟩

/-- An object with the tables under their names keeps them exactly when no name is written twice. -/
theorem keeps_of_mapsTables_iff {pairs : List (String × Json)} {ts : List Table} (h : MapsTables pairs ts)
    (hvalid : ∀ t ∈ ts, Drawable t) :
    Keeps ts (Schema.ofJson (.obj (Dictionary.ofPairs pairs)) >>= Schema.chart) ↔ (Dictionary.keys pairs).Nodup := by
  constructor
  · intro hkeeps
    by_contra hn
    rw [keys_of_declaresMember h] at hn
    obtain ⟨s, text, hs, htext⟩ := chart_of_mapsTables h hvalid
    obtain ⟨before, t, after, -, -, -, herror⟩ := hkeeps.repeated hn
    rw [hs] at herror
    cases htext.symm.trans herror
  · intro hn
    rw [Dictionary.ofPairs_of_nodup hn, Schema.ofJson_of_members (s := ⟨ts⟩) h]
    exact keeps_chart hvalid

/-! ## Tables in files -/

namespace Text.Utf8

/-- The octets of a text of which every character is one octet. -/
def ofAscii (cs : List Char) : List UInt8 := cs.map fun c => UInt8.ofNat c.toNat

theorem decodeFrom_ofAscii {cs : List Char} (h : ∀ c ∈ cs, c.toNat < 0x80) (position : Nat) :
    decodeFrom position 0 (ofAscii cs) = .ok cs := by
  induction cs generalizing position with
  | nil => rfl
  | cons c cs ih =>
    obtain ⟨hc, hcs⟩ := List.forall_mem_cons.1 h
    have hoctet : (UInt8.ofNat c.toNat).toNat = c.toNat := by
      rw [UInt8.toNat_ofNat']
      omega
    have hrest : decodeFrom (position + 1) 0 (cs.map fun c => UInt8.ofNat c.toNat) = .ok cs := ih hcs _
    rw [ofAscii, List.map_cons, decodeFrom, hoctet, following, if_pos hc]
    simp only [leadBits, continuation, hrest]
    show Except.ok (Char.ofNat c.toNat :: cs) = .ok (c :: cs)
    rw [Char.ofNat_toNat]

end Text.Utf8

theorem unifyNewlines_of_not_mem : ∀ {cs : List Char}, '\r' ∉ cs → Text.unifyNewlines cs = cs
  | [], _ => rfl
  | c :: cs, h => by
    obtain ⟨hc, hcs⟩ := not_or.1 (mt List.mem_cons.2 h)
    rw [Text.unifyNewlines]
    · rw [unifyNewlines_of_not_mem hcs]
    · rintro rest rfl
      exact absurd rfl hc
    · rintro rfl
      exact absurd rfl hc

/-- A file of single octets with no carriage return among them holds the text that they are. -/
theorem FileTree.readText_of_ascii {files : FileTree} {p : FilePath} {text : String}
    (hread : files.read p = .ok (Text.Utf8.ofAscii text.toList))
    (hplain : (text.toList.all fun c => c.toNat < 0x80 && c != '\r') = true) : files.readText p = .ok text := by
  simp only [List.all_eq_true, Bool.and_eq_true, decide_eq_true_eq, bne_iff_ne] at hplain
  have hascii : ∀ c ∈ text.toList, c.toNat < 0x80 := fun c hc => (hplain c hc).1
  have hreturn : '\r' ∉ text.toList := fun hc => (hplain _ hc).2 rfl
  rw [FileTree.readText, hread]
  simp only [Text.Utf8.decode, Text.Utf8.decodeFrom_ofAscii hascii]
  show Except.ok (String.ofList (Text.unifyNewlines (String.ofList text.toList).toList)) = .ok text
  rw [String.toList_ofList, unifyNewlines_of_not_mem hreturn, String.ofList_toList]

/-- A working directory with a single file in it, called `schema.json`. -/
def FileTree.holding (text : String) : FileTree :=
  .below ["home"] [(["schema.json"], Text.Utf8.ofAscii text.toList)]

theorem FileTree.readText_holding {text : String}
    (hplain : (text.toList.all fun c => c.toNat < 0x80 && c != '\r') = true) :
    (holding text).readText ⟨"", ["schema.json"]⟩ = .ok text :=
  readText_of_ascii rfl hplain

theorem Schema.load_of_members {files : FileTree} {p : FilePath} {text : String} {pairs : List (String × Json)}
    (hfile : files.readText p = .ok text) (hmembers : Json.members? text = some pairs) :
    Schema.load files p = Schema.ofJson (.obj (Dictionary.ofPairs pairs)) := by
  have hparse : Json.parse text = .ok (.obj (Dictionary.ofPairs pairs)) :=
    Json.parse_eq_obj_iff.2 ⟨pairs, hmembers, rfl⟩
  have hjson : files.readJson p = .ok (.obj (Dictionary.ofPairs pairs)) := by
    rw [FileTree.readJson, hfile]
    show (Json.parse text).mapError _ = _
    rw [hparse]
    rfl
  rw [Schema.load, hjson]
  rfl

theorem FileTree.chart_of_members {files : FileTree} {p : FilePath} {text : String} {pairs : List (String × Json)}
    (hfile : files.readText p = .ok text) (hmembers : Json.members? text = some pairs) :
    files.chart p = Schema.ofJson (.obj (Dictionary.ofPairs pairs)) >>= Schema.chart := by
  rw [FileTree.chart, Schema.load_of_members hfile hmembers]

/-- The tables of a file, each of which can be drawn by itself, are kept if they stand in one list, whatever their
names; if they stand under their names, a flowchart comes out in any case, and they are kept exactly when no name is
written twice. A text in which half of a surrogate pair is written is not read here. -/
theorem keeps_tables_of_file {files : FileTree} {p : FilePath} {text : String} {pairs : List (String × Json)}
    {ts : List Table} (hfile : files.readText p = .ok text) (hmembers : Json.members? text = some pairs)
    (hvalid : ∀ t ∈ ts, Drawable t) :
    (ListsTables pairs ts → (Dictionary.keys pairs).count "tables" = 1 → Keeps ts (files.chart p)) ∧
      (MapsTables pairs ts → (∃ chart, files.chart p = .ok chart) ∧
        (Keeps ts (files.chart p) ↔ (Dictionary.keys pairs).Nodup)) := by
  rw [FileTree.chart_of_members hfile hmembers]
  constructor
  · intro h honce
    rw [ofJson_of_listsTables h honce]
    exact keeps_chart hvalid
  · intro h
    refine ⟨?_, keeps_of_mapsTables_iff h hvalid⟩
    obtain ⟨s, chart, hs, hchart⟩ := chart_of_mapsTables h hvalid
    rw [hs]
    exact ⟨chart, hchart⟩

/-- A list with a table in it, and two tables under their names, one of them called like the list. -/
theorem keeps_tables_of_file_shapes :
    Keeps [⟨"a", .union []⟩] ((FileTree.holding
      "\x7b\"tables\":[\x7b\"tableName\":\"a\",\"documentType\":\x7b\"type\":\"union\",\"value\":[]\x7d\x7d]\x7d").chart
      ⟨"", ["schema.json"]⟩) ∧
    Keeps [⟨"tables", .union []⟩, ⟨"b", .union []⟩] ((FileTree.holding
      "\x7b\"tables\":\x7b\"type\":\"union\",\"value\":[]\x7d,\"b\":\x7b\"type\":\"union\",\"value\":[]\x7d\x7d").chart
      ⟨"", ["schema.json"]⟩) := by
  have hfree : (TypeTree.union []).RecordFree := by decide
  have hdrawable : ∀ name, Drawable ⟨name, .union []⟩ := fun _ => ⟨rfl, hfree⟩
  have hv : Validator.Denotes (.obj [("type", .str "union"), ("value", .arr [])]) (.union []) := .union rfl rfl .nil
  constructor
  · refine (keeps_tables_of_file (FileTree.readText_holding (by decide +kernel)) (show _ = some [("tables", .arr [
      .obj [("tableName", .str "a"), ("documentType", .obj [("type", .str "union"), ("value", .arr [])])]])] by decide +kernel)
      ?_).1 ⟨_, List.cons_ne_nil _ [], rfl, ?_⟩ rfl
    · simp [hdrawable]
    · exact .cons ⟨rfl, _, rfl, hv⟩ .nil
  · refine ((keeps_tables_of_file (FileTree.readText_holding (by decide +kernel)) (show _ = some [
      ("tables", .obj [("type", .str "union"), ("value", .arr [])]),
      ("b", .obj [("type", .str "union"), ("value", .arr [])])] by decide +kernel) ?_).2 ?_).2.2 (by decide +kernel)
    · simp [hdrawable]
    · exact .cons ⟨rfl, hv⟩ (.cons ⟨rfl, hv⟩ .nil)

/-- Of two tables under one name only the last is shown. -/
theorem not_keeps_repeated_member :
    let p : FilePath := ⟨"", ["schema.json"]⟩
    let text : String :=
      "\x7b\"a\":\x7b\"type\":\"object\",\"value\":\x7b\x7d\x7d,\"a\":\x7b\"type\":\"union\",\"value\":[]\x7d\x7d"
    let ts : List Table := [⟨"a", .object []⟩, ⟨"a", .union []⟩]
    (∃ pairs, (FileTree.holding text).readText p = .ok text ∧ Json.members? text = some pairs ∧ MapsTables pairs ts ∧
      ∀ t ∈ ts, Drawable t) ∧
      (FileTree.holding text).chart p = .ok "flowchart LR\n  subgraph a[a]\n  end" ∧
      ¬Keeps ts ((FileTree.holding text).chart p) := by
  intro p text ts
  have hfile : (FileTree.holding text).readText p = .ok text := FileTree.readText_holding (by decide +kernel)
  have hmembers : Json.members? text = some [("a", .obj [("type", .str "object"), ("value", .obj [])]),
      ("a", .obj [("type", .str "union"), ("value", .arr [])])] := by decide +kernel
  have hmaps : MapsTables [("a", .obj [("type", .str "object"), ("value", .obj [])]),
      ("a", .obj [("type", .str "union"), ("value", .arr [])])] ts :=
    .cons ⟨rfl, .object rfl rfl .nil⟩ (.cons ⟨rfl, .union rfl rfl .nil⟩ .nil)
  have hdrawable : ∀ t ∈ ts, Drawable t := by
    intro t ht
    simp only [ts, List.mem_cons, List.not_mem_nil, or_false] at ht
    rcases ht with rfl | rfl <;> exact ⟨rfl, by decide⟩
  refine ⟨⟨_, hfile, hmembers, hmaps, hdrawable⟩, ?_, ?_⟩
  · rw [FileTree.chart_of_members hfile hmembers]
    rfl
  · rw [FileTree.chart_of_members hfile hmembers, keeps_of_mapsTables_iff hmaps hdrawable]
    decide

end SchemaChart
