/-
The lines of a flowchart. Every event and every edge is written, none of them as a blank line. But the texts of a
schema stand in these lines as they are, and where one has a line break, one line more begins
(`length_linesOf_flowchart`). So each event and each edge is one line of the text exactly when no text in the
schema has a line break, and then no line is blank (`linesOf_flowchart_iff`).
-/
import SchemaChart.Proofs.Indentation
import SchemaChart.Proofs.Words

namespace SchemaChart

/-! ## The texts in a schema -/

/-- The texts that a type itself holds, apart from those in its children. -/
def TypeTree.texts : TypeTree → List String
  | .object fields => fields.map (·.name)
  | .reference table => [table]
  | .literal (.str s) => [s]
  | _ => []

/-- The names of the tables, and the texts at all places of their types. -/
def Schema.texts (s : Schema) : List String :=
  s.tables.flatMap fun t => t.name :: t.type.places.flatMap fun x => x.type.texts

theorem Schema.forall_mem_texts {s : Schema} {P : String → Prop} : (∀ text ∈ s.texts, P text) ↔
    ∀ t ∈ s.tables, P t.name ∧ ∀ x ∈ t.type.places, ∀ text ∈ x.type.texts, P text := by
  simp only [texts, List.forall_mem_flatMap, List.forall_mem_cons]

namespace Diagram

open TypeTree

/-! ## The lines of a text -/

/-- The lines of a text. -/
def linesOf (text : String) : List String := (text.toList.splitOn '\n').map String.ofList

/-- The number of line breaks in a text. -/
def breaks (text : String) : Nat := text.toList.count '\n'

/-- The number of line breaks in texts. -/
def breaksIn : List String → Nat
  | [] => 0
  | text :: rest => breaks text + breaksIn rest

theorem breaks_eq_zero_iff {text : String} : breaks text = 0 ↔ OneLine text := List.count_eq_zero

theorem breaksIn_eq_zero_iff {texts : List String} : breaksIn texts = 0 ↔ ∀ text ∈ texts, OneLine text := by
  induction texts with
  | nil => exact iff_of_true rfl (List.forall_mem_nil _)
  | cons text rest ih => rw [breaksIn, Nat.add_eq_zero_iff, breaks_eq_zero_iff, ih, List.forall_mem_cons]

theorem breaks_append (a b : String) : breaks (a ++ b) = breaks a + breaks b := by
  rw [breaks, String.toList_append, List.count_append]
  rfl

theorem length_linesOf (text : String) : (linesOf text).length = breaks text + 1 := by
  rw [linesOf, List.length_map, List.splitOn_eq_splitOnP, breaks]
  induction text.toList with
  | nil => rfl
  | cons c rest ih =>
    rw [List.splitOnP_cons_eq_if_modifyHead, List.count_cons]
    split
    · rw [List.length_cons, ih]
    · rw [List.length_modifyHead, ih]

theorem linesOf_of_oneLine {text : String} (h : OneLine text) : linesOf text = [text] := by
  rw [linesOf, List.splitOn_eq_singleton h, List.map_singleton, String.ofList_toList]

theorem linesOf_append_break (a b : String) : linesOf (a ++ "\n" ++ b) = linesOf a ++ linesOf b := by
  have hsplit : (a ++ "\n" ++ b).toList = a.toList ++ '\n' :: b.toList := by simp
  rw [linesOf, hsplit, List.splitOn_eq_splitOnP, List.splitOnP_append_cons _ _ (by decide), List.map_append]
  rfl

/-- The lines of texts set below each other. -/
theorem linesOf_intercalate {texts : List String} (h : texts ≠ []) :
    linesOf ("\n".intercalate texts) = texts.flatMap linesOf := by
  induction texts with
  | nil => exact absurd rfl h
  | cons first rest ih =>
    cases rest with
    | nil => rw [String.intercalate_singleton, List.flatMap_singleton]
    | cons second rest =>
      rw [String.intercalate_cons_cons, linesOf_append_break, ih (List.cons_ne_nil second rest), ← List.flatMap_cons]

theorem length_flatMap_linesOf (texts : List String) :
    (texts.flatMap linesOf).length = texts.length + breaksIn texts := by
  induction texts with
  | nil => rfl
  | cons first rest ih =>
    rw [List.flatMap_cons, List.length_append, length_linesOf, ih, List.length_cons, breaksIn]
    omega

theorem oneLine_indentation (depth : Int) : OneLine (indentation depth) := by
  intro hm
  exact absurd (eq_of_mem_indentation hm) (by decide)

/-- Lines keep their breaks when they are indented. -/
theorem breaksIn_indentFrom {lines : List String} (h : ∀ line ∈ lines, Text.isBlankText line = false)
    (depth : Int) : breaksIn (indentFrom depth lines) = breaksIn lines := by
  have hspaces : ∀ depth, breaks (indentation depth) = 0 :=
    fun depth => breaks_eq_zero_iff.2 (oneLine_indentation depth)
  induction lines generalizing depth with
  | nil => rfl
  | cons line rest ih =>
    obtain ⟨hl, hr⟩ := List.forall_mem_cons.1 h
    rw [indentFrom_cons hl, breaksIn, breaksIn, ih hr, breaks_append, hspaces, Nat.zero_add]

/-- Every line that is indented is one of the lines, and not a blank one. -/
theorem exists_of_mem_indentFrom {lines : List String} {depth : Int} {line : String} (h : line ∈ indentFrom depth lines) :
    ∃ level, ∃ bare ∈ lines, Text.isBlankText bare = false ∧ line = indentation level ++ bare := by
  induction lines generalizing depth with
  | nil => cases h
  | cons bare rest ih =>
    rcases hb : Text.isBlankText bare with _ | _
    · rw [indentFrom_cons hb, List.mem_cons] at h
      rcases h with rfl | h
      · exact ⟨_, bare, List.mem_cons_self .., hb, rfl⟩
      · obtain ⟨level, b, hm, hkept, he⟩ := ih h
        exact ⟨level, b, List.mem_cons_of_mem _ hm, hkept, he⟩
    · rw [indentFrom, if_pos hb] at h
      obtain ⟨level, b, hm, hkept, he⟩ := ih h
      exact ⟨level, b, List.mem_cons_of_mem _ hm, hkept, he⟩

theorem isBlankText_of_mem_indentFrom {lines : List String} {depth : Int} :
    ∀ line ∈ indentFrom depth lines, Text.isBlankText line = false := by
  intro line h
  obtain ⟨level, bare, -, hkept, rfl⟩ := exists_of_mem_indentFrom h
  rw [isBlankText_append, hkept, Bool.and_false]

theorem oneLine_of_mem_indentFrom {lines : List String} (h : ∀ line ∈ lines, OneLine line) {depth : Int} :
    ∀ line ∈ indentFrom depth lines, OneLine line := by
  intro line hm
  obtain ⟨level, bare, hbare, -, rfl⟩ := exists_of_mem_indentFrom hm
  exact oneLine_append.2 ⟨oneLine_indentation level, h bare hbare⟩

/-! ## Lines without breaks -/

theorem oneLine_joinNames_iff {names : List String} : OneLine (joinNames names) ↔ ∀ name ∈ names, OneLine name := by
  have hdot : OneLine "." := by decide
  have hdotted : ∀ rest, OneLine (dotted rest) ↔ ∀ name ∈ rest, OneLine name := by
    intro rest
    induction rest with
    | nil => exact ⟨fun _ name hm => (by cases hm), fun _ => by decide⟩
    | cons name rest ih => rw [dotted, oneLine_append, oneLine_append, ih, List.forall_mem_cons, and_iff_right hdot]
  cases names with
  | nil => exact ⟨fun _ name hm => (by cases hm), fun _ => by decide⟩
  | cons name rest => rw [joinNames_cons, oneLine_append, hdotted, List.forall_mem_cons]

theorem oneLine_text_iff (value : Literal) : OneLine value.text ↔ ∀ text ∈ (literal value).texts, OneLine text := by
  cases value with
  | str s => exact List.forall_mem_singleton.symm
  | bool b => exact ⟨fun _ text hm => (by cases hm), fun _ => oneLine_text trivial⟩
  | int n => exact ⟨fun _ text hm => (by cases hm), fun _ => oneLine_text trivial⟩
  | real x => exact ⟨fun _ text hm => (by cases hm), fun _ => oneLine_text trivial⟩

theorem oneLine_fieldChild_iff (f : Field TypeTree) : OneLine (fieldChild f).name ↔ OneLine f.name := by
  have hmark : OneLine "?" := by decide
  unfold fieldChild
  dsimp only
  split
  · rw [oneLine_append, and_iff_left hmark]
  · rfl

/-- The texts that a type itself holds stand in its label and in the names of its children. -/
theorem oneLine_texts_iff {name : String} (hname : OneLine name) (t : TypeTree) :
    OneLine (t.label name) ∧ (∀ c ∈ t.children, OneLine c.name) ↔ ∀ text ∈ t.texts, OneLine text := by
  have hquote : OneLine "'" := by decide
  cases t with
  | primitive kind =>
    have hlabel : OneLine ((primitive kind).label name) := oneLine_label hname trivial
    simp [hlabel, children, texts]
  | literal value =>
    have hword : OneLine ": literal '" := by decide
    rw [← oneLine_text_iff]
    simp [label, children, oneLine_append, hname, hword, hquote]
  | reference table =>
    have hword : OneLine ": id '" := by decide
    simp [label, children, texts, oneLine_append, hname, hword, hquote]
  | object fields =>
    simp only [label, hname, children, texts, List.forall_mem_map, oneLine_fieldChild_iff, true_and]
  | union members =>
    refine ⟨fun _ text hm => (by cases hm), fun _ => ⟨hname, fun c hc => ?_⟩⟩
    obtain ⟨i, hi, rfl⟩ := List.mem_mapIdx.1 hc
    exact oneLine_append.2 ⟨by decide, oneLine_toString i⟩
  | array element =>
    have helement : OneLine "array.0" := by decide
    simpa [label, children, texts, elementChild, hname] using helement
  | record key value => simp [label, children, texts, hname]

theorem oneLine_entry_iff {names : List String} (t : TypeTree) : OneLine (entry names t).line ↔
    (∀ name ∈ names, OneLine name) ∧ OneLine (t.label (names.getLast?.getD "")) := by
  have hopen : OneLine "[" := by decide
  have hclose : OneLine "]" := by decide
  have hword : OneLine "subgraph " := by decide
  rw [← oneLine_joinNames_iff]
  rcases hg : t.isGroup with _ | _
  · simp [line_entry_leaf names hg, oneLine_append, hopen, hclose]
  · simp [line_entry_group names hg, label_of_isGroup hg, oneLine_append, hopen, hclose, hword]

theorem oneLine_getLast {names : List String} (h : ∀ name ∈ names, OneLine name) :
    OneLine (names.getLast?.getD "") := by
  rcases hl : names.getLast? with _ | name
  · decide
  · exact h name (List.mem_of_getLast? hl)

/-- The lines of the entries of a walk have no breaks exactly when the names on the way to its place and the texts
in the type have none. -/
theorem oneLine_entries_iff {names : List String} (t : TypeTree) :
    (∀ x ∈ t.places, OneLine (entry (names ++ x.chain) x.type).line) ↔
      (∀ name ∈ names, OneLine name) ∧ ∀ x ∈ t.places, ∀ text ∈ x.type.texts, OneLine text := by
  induction t using induction_children generalizing names with
  | step t ih =>
    have hchild : ∀ c ∈ t.children, (∀ y ∈ c.type.places, OneLine (entry (names ++ c.name :: y.chain) y.type).line) ↔
        (∀ name ∈ names, OneLine name) ∧ OneLine c.name ∧ ∀ y ∈ c.type.places, ∀ text ∈ y.type.texts, OneLine text := by
      intro c hc
      have hc' := @ih c hc (names ++ [c.name])
      simp only [List.append_assoc, List.singleton_append] at hc'
      rw [hc', List.forall_mem_append, List.forall_mem_singleton, and_assoc]
    rw [forall_mem_places, forall_type_places (P := fun t => ∀ text ∈ t.texts, OneLine text)]
    simp only [top, Place.under, List.append_nil]
    constructor
    · rintro ⟨htop, hbelow⟩
      obtain ⟨hnames, hlabel⟩ := (oneLine_entry_iff t).1 htop
      have hbelow : ∀ c ∈ t.children, OneLine c.name ∧ ∀ y ∈ c.type.places, ∀ text ∈ y.type.texts, OneLine text := by
        intro c hc
        obtain ⟨i, hi⟩ := List.getElem?_of_mem hc
        exact ((hchild c hc).1 (hbelow i c hi)).2
      exact ⟨hnames, (oneLine_texts_iff (oneLine_getLast hnames) t).1 ⟨hlabel, fun c hc => (hbelow c hc).1⟩,
        fun c hc => (hbelow c hc).2⟩
    · rintro ⟨hnames, htexts, hbelow⟩
      obtain ⟨hlabel, hchildren⟩ := (oneLine_texts_iff (oneLine_getLast hnames) t).2 htexts
      refine ⟨(oneLine_entry_iff t).2 ⟨hnames, hlabel⟩, fun i c hi => ?_⟩
      have hc := List.mem_of_getElem? hi
      exact (hchild c hc).2 ⟨hnames, hchildren c hc, hbelow c hc⟩

/-! ## The lines of a flowchart -/

/-- The lines of a drawing have no breaks exactly when the texts in the schema have none. -/
theorem oneLine_lines_iff {s : Schema} {d : Drawing} (h : draw s = .ok d) :
    (∀ line ∈ d.lines, OneLine line) ↔ ∀ text ∈ s.texts, OneLine text := by
  have hentries : (∀ e ∈ entries d.blocks.flatten, OneLine e.line) ↔ ∀ text ∈ s.texts, OneLine text := by
    rw [(draw_places h).1, Schema.forall_mem_texts, List.forall_mem_flatMap]
    refine forall₂_congr fun t _ => ?_
    rw [List.forall_mem_map, ← List.forall_mem_singleton (p := OneLine), ← oneLine_entries_iff]
    rfl
  rw [← hentries, Drawing.lines, List.cons_append, List.forall_mem_cons, List.forall_mem_append, List.forall_mem_map,
    List.forall_mem_map]
  constructor
  · rintro ⟨-, hevents, -⟩ e he
    exact hevents e (List.mem_filter.1 he).1
  · intro hlines
    refine ⟨by decide, fun e he => ?_, fun e he => ?_⟩
    · by_cases hk : e.kind = .closeGroup
      · obtain ⟨_, n⟩ := e
        cases hk
        have hend : OneLine endLine := by decide
        exact hend
      · exact hlines e (List.mem_filter.2 ⟨he, by simpa using hk⟩)
    · -- what an edge says, the line of its leaf says as well
      obtain ⟨t, ht, x, hx, hty, hsource⟩ := (mem_edges_iff h).1 he
      have hleaf := hlines _ ((mem_entries_iff h).2 ⟨t, ht, x, hx, rfl⟩)
      rw [hty, oneLine_entry_iff, ← oneLine_joinNames_iff, ← hsource] at hleaf
      have hword : OneLine "-->" := by decide
      have htarget : OneLine e.target := by
        have hlabel := hleaf.2
        simp only [label, oneLine_append] at hlabel
        exact hlabel.1.2
      exact oneLine_append.2 ⟨oneLine_append.2 ⟨hleaf.1, hword⟩, htarget⟩

theorem linesOf_flowchart (d : Drawing) : linesOf d.flowchart = (indentLines d.lines).flatMap linesOf :=
  linesOf_intercalate (by rw [indentLines_lines]; exact List.cons_ne_nil _ _)

theorem head?_linesOf_flowchart (d : Drawing) : (linesOf d.flowchart).head? = some declarationLine := by
  rw [linesOf_flowchart, indentLines_lines, List.cons_append, List.flatMap_cons, linesOf_of_oneLine (by decide)]
  rfl

/-- A flowchart has a line for its beginning, for each event and for each edge, and one more for each line break in
these. -/
theorem length_linesOf_flowchart (d : Drawing) : (linesOf d.flowchart).length =
    1 + d.blocks.flatten.length + d.edges.length + breaksIn d.lines := by
  have hlines : d.lines.length = 1 + d.blocks.flatten.length + d.edges.length := by
    rw [Drawing.lines, List.length_append, List.length_cons, List.length_map, List.length_map]
    omega
  rw [linesOf_flowchart, length_flatMap_linesOf, indentLines, length_indentFrom (kept_lines d),
    breaksIn_indentFrom (kept_lines d), hlines]

theorem linesOf_flowchart_of_oneLine {d : Drawing} (h : ∀ line ∈ d.lines, OneLine line) :
    linesOf d.flowchart = indentLines d.lines := by
  have hsingle : (indentLines d.lines).flatMap linesOf = (indentLines d.lines).flatMap fun line => [line] :=
    List.flatMap_congr fun line hm => linesOf_of_oneLine (oneLine_of_mem_indentFrom h line hm)
  rw [linesOf_flowchart, hsingle, List.flatMap_singleton']

theorem draw_of_flowchart {s : Schema} {text : String} (h : flowchart s = .ok text) :
    ∃ d, draw s = .ok d ∧ text = d.flowchart := by
  rw [flowchart] at h
  rcases hd : draw s with e | d
  · rw [hd] at h; cases h
  · rw [hd] at h; cases h
    exact ⟨d, rfl, rfl⟩

/-- The lines of a flowchart are its first line, one for each event and one for each edge, and further ones for the
line breaks in these. There are no further ones exactly when no text in the schema has a line break, and then no
line is blank. -/
theorem linesOf_flowchart_iff {s : Schema} {text : String} (h : flowchart s = .ok text) : ∃ d, draw s = .ok d ∧
    (linesOf text).length = 1 + d.blocks.flatten.length + d.edges.length + breaksIn d.lines ∧
    ((linesOf text).length = 1 + d.blocks.flatten.length + d.edges.length ↔ ∀ x ∈ s.texts, OneLine x) ∧
    ((∀ x ∈ s.texts, OneLine x) → ∀ line ∈ linesOf text, Text.isBlankText line = false) ∧
    (linesOf text).head? = some declarationLine := by
  obtain ⟨d, hd, rfl⟩ := draw_of_flowchart h
  have hlength := length_linesOf_flowchart d
  refine ⟨d, hd, hlength, ?_, fun hs => ?_, head?_linesOf_flowchart d⟩
  · rw [← oneLine_lines_iff hd, ← breaksIn_eq_zero_iff, hlength]
    omega
  · rw [linesOf_flowchart_of_oneLine ((oneLine_lines_iff hd).2 hs)]
    exact isBlankText_of_mem_indentFrom

/-- Texts with brackets, blanks and keywords in them, and a name that is empty. -/
theorem linesOf_flowchart_brackets :
    let s : Schema := ⟨[⟨"end", .object [⟨"", true, .literal (.str "]\t[end")⟩, ⟨" ", false, .reference ""⟩]⟩]⟩
    ∃ text, flowchart s = .ok text ∧ (linesOf text).length = 6 ∧
      ∀ line ∈ linesOf text, Text.isBlankText line = false := by
  intro s
  have hs : ∀ x ∈ s.texts, OneLine x := by decide
  obtain ⟨d, hd, -, hlength, hkept, -⟩ := linesOf_flowchart_iff (s := s) rfl
  cases hd
  exact ⟨_, rfl, hlength.2 hs, hkept hs⟩

/-- A reference to a table with a line break at the end of its name: the text ends in a blank line. -/
theorem linesOf_flowchart_reference_break :
    ∃ text d, flowchart ⟨[⟨"t", .object [⟨"a", false, .reference "u\n"⟩]⟩]⟩ = .ok text ∧
      draw ⟨[⟨"t", .object [⟨"a", false, .reference "u\n"⟩]⟩]⟩ = .ok d ∧
      1 + d.blocks.flatten.length + d.edges.length = 5 ∧ (linesOf text).length = 7 ∧
      (linesOf text).getLast? = some "" :=
  ⟨_, _, rfl, rfl, by decide, by decide, by decide⟩

end Diagram

end SchemaChart
