/-
Reading a flowchart. The lines of the text say which groups are opened and closed, which leaves and which edges
there are; the nodes that groups are closed with are those of the groups still open, and a block ends where none
is open any more. Where names are words and literal texts are on one line, this gives the drawing that the text
was made of (`readDrawing_flowchart`), so that no two drawings have one text. The label of a leaf may hold any
other characters, but it begins behind the first bracket of its line, and the first colon in it ends the name.
-/
import SchemaChart.Proofs.Lines
import Mathlib.Data.List.TakeWhile

namespace SchemaChart.Diagram

open TypeTree

/-! ## The reader -/

/-- What a line says. -/
inductive Statement where
  | opened (n : Node)
  | leaf (n : Node)
  | closed
  | edge (e : Edge)
  deriving DecidableEq, Repr

/-- A text up to the first such character, and the text behind it. -/
def cut (c : Char) (text : List Char) : List Char × List Char :=
  (text.takeWhile (· != c), (text.dropWhile (· != c)).tail)

/-- The table that a label links to, by what stands behind its colon. -/
def readLink (what : List Char) : Option String :=
  let (word, rest) := cut '\x27' what
  if word = " id ".toList then some (String.ofList rest.dropLast) else none

/-- What a line says that is not indented. A line with a bracket is of a group if there is a blank before it. -/
def readLine (line : List Char) : Statement :=
  if line = endLine.toList then .closed
  else if '[' ∈ line then
    let (place, shown) := cut '[' line
    let label := shown.dropLast
    if ' ' ∈ place then
      .opened ⟨String.ofList (cut ' ' place).2, String.ofList label, .group, String.ofList label, none⟩
    else
      let (name, what) := cut ':' label
      .leaf ⟨String.ofList place, String.ofList name, .leaf, String.ofList label, readLink what⟩
  else
    let (source, target) := cut '-' line
    .edge ⟨String.ofList source, String.ofList (target.drop 2)⟩

/-- A drawing as far as it is read: the groups that are open, the innermost first, the events of the block that
they are in, and what comes before that block. -/
structure Reading where
  opened : List Node
  block : List Event
  done : Drawing

/-- What is read behind one more line. -/
def Reading.add (r : Reading) : Statement → Reading
  | .opened n => { r with opened := n :: r.opened, block := r.block ++ [⟨.openGroup, n⟩] }
  | .leaf n => { r with block := r.block ++ [⟨.leaf, n⟩] }
  | .closed =>
    match r.opened with
    | [] => r
    | [n] => ⟨[], [], ⟨r.done.blocks ++ [r.block ++ [⟨.closeGroup, n⟩]], r.done.edges⟩⟩
    | n :: above => ⟨above, r.block ++ [⟨.closeGroup, n⟩], r.done⟩
  | .edge e => { r with done := ⟨r.done.blocks, r.done.edges ++ [e]⟩ }

/-- The lines of a text without their indentation. -/
def readLines (text : String) : List (List Char) := (text.toList.splitOn '\n').map (List.dropWhile (· == ' '))

/-- The drawing that a flowchart shows. -/
def readDrawing (text : String) : Drawing :=
  (((readLines text).tail.map readLine).foldl Reading.add ⟨[], [], ⟨[], []⟩⟩).done

/-! ## From the text to its lines -/

/-- A line that can be found again behind its indentation. -/
structure Unbroken (line : String) : Prop where
  kept : Text.isBlankText line = false
  oneLine : OneLine line
  first : line.toList.head? ≠ some ' '

theorem dropWhile_indentation {line : String} (h : Unbroken line) (depth : Int) :
    (indentation depth ++ line).toList.dropWhile (· == ' ') = line.toList := by
  have hspaces : ∀ c ∈ (indentation depth).toList, (c == ' ') = true := by
    intro c hc
    rw [eq_of_mem_indentation hc]
    rfl
  rw [String.toList_append, List.dropWhile_append_of_pos hspaces]
  have hfirst := h.first
  cases hl : line.toList with
  | nil => rfl
  | cons c rest =>
    rw [hl] at hfirst
    exact List.dropWhile_cons_of_neg (by simpa using hfirst)

/-- Unbroken lines are on one line each when they are indented, and found again behind the blanks. -/
theorem indentFrom_unbroken {lines : List String} (h : ∀ line ∈ lines, Unbroken line) (depth : Int) :
    (∀ line ∈ indentFrom depth lines, OneLine line) ∧
      (indentFrom depth lines).map (fun line => line.toList.dropWhile (· == ' ')) = lines.map String.toList := by
  induction lines generalizing depth with
  | nil => exact ⟨by simp [indentFrom], rfl⟩
  | cons line rest ih =>
    obtain ⟨hl, hr⟩ := List.forall_mem_cons.1 h
    obtain ⟨hone, hsame⟩ := ih hr (depth + rise line)
    rw [indentFrom_cons hl.kept]
    refine ⟨List.forall_mem_cons.2 ⟨oneLine_append.2 ⟨oneLine_indentation _, hl.oneLine⟩, hone⟩, ?_⟩
    rw [List.map_cons, List.map_cons, dropWhile_indentation hl, hsame]

theorem readLines_intercalate {lines : List String} (hne : lines ≠ []) (h : ∀ line ∈ lines, Unbroken line) :
    readLines ("\n".intercalate (indentLines lines)) = lines.map String.toList := by
  obtain ⟨hone, hsame⟩ := indentFrom_unbroken h 0
  have hnl : ∀ cs ∈ (indentLines lines).map String.toList, '\n' ∉ cs := List.forall_mem_map.2 hone
  have hne' : (indentLines lines).map String.toList ≠ [] := by
    cases lines with
    | nil => exact absurd rfl hne
    | cons line rest =>
      rw [indentLines, indentFrom_cons (h line (List.mem_cons_self ..)).kept]
      simp
  rw [readLines, String.toList_intercalate, show "\n".toList = ['\n'] from rfl,
    List.splitOn_intercalate '\n' hnl hne', List.map_map]
  exact hsame

/-! ## What a line says -/

theorem bne_of_not_mem {c : Char} {a : List Char} (h : c ∉ a) : ∀ x ∈ a, (x != c) = true := by
  intro x hx
  rw [bne_iff_ne]
  rintro rfl
  exact h hx

theorem cut_append {c : Char} {a : List Char} (h : c ∉ a) (b : List Char) : cut c (a ++ c :: b) = (a, b) := by
  rw [cut, List.takeWhile_append_of_pos (bne_of_not_mem h), List.dropWhile_append_of_pos (bne_of_not_mem h)]
  simp

theorem cut_of_not_mem {c : Char} {a : List Char} (h : c ∉ a) : cut c a = (a, []) := by
  rw [cut, List.takeWhile_eq_self_iff.2 (bne_of_not_mem h), List.dropWhile_eq_nil_iff.2 (bne_of_not_mem h)]
  rfl

/-- The colon of a label ends the name, and behind it stands the table that is linked to, if there is one. -/
theorem cut_label {name : String} (h : NameText name) {t : TypeTree} (hg : t.isGroup = false) :
    ∃ what, cut ':' (t.label name).toList = (name.toList, what) ∧ readLink what = t.linkedTable := by
  have hcolon : ':' ∉ name.toList := h.not_mem (by decide)
  cases t with
  | primitive kind =>
    refine ⟨' ' :: kind.name.toList, ?_, by cases kind <;> rfl⟩
    rw [label, String.toList_append, String.toList_append, List.append_assoc]
    exact cut_append hcolon _
  | literal value =>
    -- whatever the text is, the first quote is the one before it
    refine ⟨" literal ".toList ++ '\x27' :: (value.text.toList ++ ['\x27']), ?_, ?_⟩
    · rw [label, String.toList_append, String.toList_append, String.toList_append, List.append_assoc, List.append_assoc]
      exact cut_append hcolon _
    · rw [readLink, cut_append (by decide)]
      rfl
  | reference table =>
    refine ⟨" id ".toList ++ '\x27' :: (table.toList ++ ['\x27']), ?_, ?_⟩
    · rw [label, String.toList_append, String.toList_append, String.toList_append, List.append_assoc, List.append_assoc]
      exact cut_append hcolon _
    · rw [readLink, cut_append (by decide)]
      simp [linkedTable]
  | record => exact ⟨[], cut_of_not_mem hcolon, rfl⟩
  | object | union | array => cases hg

/-- What the line of an event says. -/
def Event.statement (e : Event) : Statement :=
  match e.kind with
  | .openGroup => .opened e.node
  | .leaf => .leaf e.node
  | .closeGroup => .closed

theorem readLine_bracket {place : List Char} (h : '[' ∉ place) (label : List Char) :
    readLine (place ++ '[' :: (label ++ [']'])) =
      if ' ' ∈ place then
        .opened ⟨String.ofList (cut ' ' place).2, String.ofList label, .group, String.ofList label, none⟩
      else
        .leaf ⟨String.ofList place, String.ofList (cut ':' label).1, .leaf, String.ofList label,
          readLink (cut ':' label).2⟩ := by
  have hne : place ++ '[' :: (label ++ [']']) ≠ endLine.toList := by
    intro he
    have hm : '[' ∈ endLine.toList := by rw [← he]; simp
    exact absurd hm (by decide)
  rw [readLine, if_neg hne, if_pos (by simp), cut_append h]
  dsimp only
  rw [List.dropLast_concat]

theorem nameText_getLast {names : List String} (hne : names ≠ []) (h : ∀ m ∈ names, NameText m) :
    NameText (names.getLast?.getD "") := by
  rw [List.getLast?_eq_some_getLast hne]
  exact h _ (List.getLast_mem hne)

theorem readLine_entry {names : List String} (hne : names ≠ []) (h : ∀ m ∈ names, NameText m) (t : TypeTree) :
    readLine (entry names t).line.toList = (entry names t).statement := by
  have hpath := nameText_joinNames hne h
  rcases hg : t.isGroup with _ | _
  · obtain ⟨what, hcut, hlink⟩ := cut_label (nameText_getLast hne h) hg
    have hline : (entry names t).line.toList =
        (joinNames names).toList ++ '[' :: ((t.label (names.getLast?.getD "")).toList ++ [']']) := by
      simp [line_entry_leaf names hg]
    rw [hline, readLine_bracket (hpath.not_mem (by decide)), if_neg (hpath.not_mem (by decide)), hcut, hlink]
    simp [entry, placeNode, Event.statement, hg]
  · have hline : (entry names t).line.toList = ("subgraph".toList ++ ' ' :: (joinNames names).toList) ++
        '[' :: ((names.getLast?.getD "").toList ++ [']']) := by
      simp [line_entry_group names hg]
    have hplace : '[' ∉ "subgraph".toList ++ ' ' :: (joinNames names).toList := by
      rw [List.mem_append, List.mem_cons]
      rintro (hm | hm | hm)
      · exact absurd hm (by decide)
      · exact absurd hm (by decide)
      · exact hpath.not_mem (by decide) hm
    rw [hline, readLine_bracket hplace, if_pos (by simp), cut_append (by decide)]
    simp [entry, placeNode, Event.statement, hg, label_of_isGroup hg, linkedTable_of_isGroup hg]

theorem readLine_edge {e : Edge} (hs : NameText e.source) (ht : NameText e.target) :
    readLine e.line.toList = .edge e := by
  have hline : e.line.toList = e.source.toList ++ '-' :: ("->".toList ++ e.target.toList) := by
    simp [Edge.line]
  have hbracket : '[' ∉ e.line.toList := by
    rw [Edge.line, String.toList_append, String.toList_append, List.mem_append, List.mem_append]
    simp [hs.not_mem (c := '[') (by decide), ht.not_mem (c := '[') (by decide)]
  have hend : e.line.toList ≠ endLine.toList := fun he => (shown_edge e).inside (String.toList_inj.1 he)
  rw [readLine, if_neg hend, if_neg hbracket, hline, cut_append (hs.not_mem (by decide))]
  simp

/-! ## Reading events -/

/-- Balanced events are read as they are, in a group that stays open. -/
theorem foldl_add_balanced {es : List Event} (h : Balanced es) {r : Reading} (ho : r.opened ≠ []) :
    (es.map Event.statement).foldl Reading.add r = { r with block := r.block ++ es } := by
  induction h generalizing r with
  | nil => simp
  | @leaf n rest _ ih =>
    rw [List.map_cons, List.foldl_cons, ih (by exact ho)]
    simp [Event.statement, Reading.add]
  | @group n inner rest _ _ ihi ihr =>
    rcases r with ⟨_ | ⟨m, above⟩, block, done⟩
    · exact absurd rfl ho
    · -- the group is read inside another one, so its end is not the end of the block
      rw [List.map_cons, List.foldl_cons, List.map_append, List.foldl_append, ihi (by simp [Event.statement, Reading.add]),
        List.map_cons, List.foldl_cons, ihr (by simp [Event.statement, Reading.add])]
      simp [Event.statement, Reading.add]

/-- One group, where none is open, is read as a block. -/
theorem foldl_add_group (n : Node) {inner : List Event} (h : Balanced inner) (d : Drawing) :
    ((groupEvents n inner).map Event.statement).foldl Reading.add ⟨[], [], d⟩ =
      ⟨[], [], ⟨d.blocks ++ [groupEvents n inner], d.edges⟩⟩ := by
  rw [groupEvents, List.map_cons, List.foldl_cons, List.map_append, List.foldl_append,
    foldl_add_balanced h (by simp [Event.statement, Reading.add])]
  simp [Event.statement, Reading.add]

theorem foldl_add_blocks {blocks : List (List Event)}
    (h : ∀ block ∈ blocks, ∃ n inner, Balanced inner ∧ block = groupEvents n inner) (d : Drawing) :
    (blocks.flatten.map Event.statement).foldl Reading.add ⟨[], [], d⟩ = ⟨[], [], ⟨d.blocks ++ blocks, d.edges⟩⟩ := by
  induction blocks generalizing d with
  | nil => simp
  | cons block rest ih =>
    obtain ⟨⟨n, inner, hi, rfl⟩, hr⟩ := List.forall_mem_cons.1 h
    rw [List.flatten_cons, List.map_append, List.foldl_append, foldl_add_group n hi, ih hr]
    simp

theorem foldl_add_edges (es : List Edge) (d : Drawing) :
    (es.map Statement.edge).foldl Reading.add ⟨[], [], d⟩ = ⟨[], [], ⟨d.blocks, d.edges ++ es⟩⟩ := by
  induction es generalizing d with
  | nil => simp
  | cons e rest ih =>
    rw [List.map_cons, List.foldl_cons, Reading.add, ih]
    simp

/-! ## Drawings of words -/

theorem nameText_names {s : Schema} (hs : WordNames s) {t : Table} (ht : t ∈ s.tables) {x : Place}
    (hx : x ∈ t.type.places) : ∀ m ∈ t.name :: x.chain, NameText m :=
  List.forall_mem_cons.2 ⟨nameText_of_isWord (hs.tables t ht), nameText_chain (hs.places t ht) x hx⟩

theorem NameText.head?_ne {s : String} (h : NameText s) (rest : List Char) :
    (s.toList ++ rest).head? ≠ some ' ' := by
  cases hl : s.toList with
  | nil => exact absurd (String.toList_eq_nil_iff.1 hl) h.ne_empty
  | cons c cs =>
    intro he
    cases he
    have hspace : ' ' ∉ s.toList := h.not_mem (by decide)
    rw [hl] at hspace
    exact hspace (List.mem_cons_self ..)

theorem unbroken_entry {names : List String} (hne : names ≠ []) (h : ∀ m ∈ names, NameText m) {t : TypeTree}
    (ht : t.Wordy) : Unbroken (entry names t).line := by
  have hpath := nameText_joinNames hne h
  have hname := nameText_getLast hne h
  rcases hg : t.isGroup with _ | _
  · refine ⟨?_, ?_, ?_⟩
    · rw [entry, hg]
      exact (shown_leaf _).kept
    · simp only [line_entry_leaf names hg, oneLine_append]
      exact ⟨⟨⟨hpath.oneLine, by decide⟩, oneLine_label hname.oneLine ht⟩, by decide⟩
    · rw [line_entry_leaf names hg]
      simp only [String.toList_append, List.append_assoc]
      exact hpath.head?_ne _
  · refine ⟨?_, ?_, ?_⟩
    · rw [entry, hg]
      exact (shown_group _).kept
    · simp only [line_entry_group names hg, oneLine_append]
      exact ⟨⟨⟨⟨by decide, hpath.oneLine⟩, by decide⟩, hname.oneLine⟩, by decide⟩
    · simp [line_entry_group names hg]

theorem unbroken_edge {e : Edge} (hs : NameText e.source) (ht : NameText e.target) : Unbroken e.line := by
  refine ⟨(shown_edge e).kept, ?_, ?_⟩
  · simp only [Edge.line, oneLine_append]
    exact ⟨⟨hs.oneLine, by decide⟩, ht.oneLine⟩
  · rw [Edge.line]
    simp only [String.toList_append, List.append_assoc]
    exact hs.head?_ne _

section Words

variable {s : Schema} {d : Drawing} (hs : WordNames s) (h : draw s = .ok d)
include hs h

/-- Every line of an event is unbroken, and says what the event is. -/
theorem event_lines : ∀ e ∈ d.blocks.flatten, Unbroken e.line ∧ readLine e.line.toList = e.statement := by
  intro e he
  -- the line that closes a group is always the same, and all other events are those of places
  by_cases hk : e.kind = .closeGroup
  · obtain ⟨_, n⟩ := e
    cases hk
    have hend : Unbroken endLine ∧ readLine endLine.toList = .closed := ⟨⟨by decide, by decide, by decide⟩, by decide⟩
    exact hend
  · have hentry : e ∈ entries d.blocks.flatten := List.mem_filter.2 ⟨he, by simpa using hk⟩
    obtain ⟨t, ht, x, hx, rfl⟩ := (mem_entries_iff h).1 hentry
    have hnames := nameText_names hs ht hx
    exact ⟨unbroken_entry (List.cons_ne_nil _ _) hnames (hs.places t ht x hx),
      readLine_entry (List.cons_ne_nil _ _) hnames x.type⟩

/-- Every line of an edge is unbroken, and says what the edge is. -/
theorem edge_lines : ∀ e ∈ d.edges, Unbroken e.line ∧ readLine e.line.toList = .edge e := by
  intro e he
  obtain ⟨t, ht, x, hx, hty, hsource⟩ := (mem_edges_iff h).1 he
  have hwordy : IsWord e.target := by
    have hx' := hs.places t ht x hx
    rw [hty] at hx'
    exact hx'
  have hpath : NameText e.source := by
    rw [hsource]
    exact nameText_joinNames (List.cons_ne_nil _ _) (nameText_names hs ht hx)
  have htarget := nameText_of_isWord hwordy
  exact ⟨unbroken_edge hpath htarget, readLine_edge hpath htarget⟩

theorem unbroken_lines : ∀ line ∈ d.lines, Unbroken line := by
  rw [Drawing.lines, List.cons_append, List.forall_mem_cons, List.forall_mem_append, List.forall_mem_map,
    List.forall_mem_map]
  exact ⟨⟨by decide, by decide, by decide⟩, fun e he => (event_lines hs h e he).1, fun e he => (edge_lines hs h e he).1⟩

/-- What a flowchart shows is the drawing that it was made of. -/
theorem readDrawing_flowchart : readDrawing d.flowchart = d := by
  have hlines : readLines d.flowchart = d.lines.map String.toList :=
    readLines_intercalate (by simp [Drawing.lines]) (unbroken_lines hs h)
  have hevents : (d.blocks.flatten.map Event.line).map (fun line => readLine line.toList) =
      d.blocks.flatten.map Event.statement := by
    rw [List.map_map]
    exact List.map_congr_left fun e he => (event_lines hs h e he).2
  have hedges : (d.edges.map Edge.line).map (fun line => readLine line.toList) = d.edges.map Statement.edge := by
    rw [List.map_map]
    exact List.map_congr_left fun e he => (edge_lines hs h e he).2
  have hstatements : (readLines d.flowchart).tail.map readLine =
      d.blocks.flatten.map Event.statement ++ d.edges.map Statement.edge := by
    rw [hlines, ← hevents, ← hedges, Drawing.lines, ← List.map_append, List.cons_append, List.map_cons,
      List.tail_cons, List.map_map]
    rfl
  rw [readDrawing, hstatements, List.foldl_append, foldl_add_blocks (draw_groups h), foldl_add_edges]
  rfl

end Words

/-- Schemas whose names are words, and whose literal texts are on one line, have one flowchart only if they have
one drawing: the same events block by block, and the same edges. -/
theorem flowchart_inj {s s' : Schema} {text : String} (hs : WordNames s) (hs' : WordNames s')
    (h : flowchart s = .ok text) (h' : flowchart s' = .ok text) : ∃ d, draw s = .ok d ∧ draw s' = .ok d := by
  have made : ∀ {s : Schema}, WordNames s → flowchart s = .ok text → draw s = .ok (readDrawing text) := by
    intro s hs h
    rcases hd : draw s with e | d
    · rw [flowchart, hd] at h; cases h
    · rw [flowchart, hd] at h; cases h
      rw [readDrawing_flowchart hs hd]
  exact ⟨readDrawing text, made hs h, made hs' h'⟩

/-- A whole number and a text of the same digits, an empty object and an empty union, in a table with the name
of a keyword. -/
theorem flowchart_inj_keyword :
    let s : Schema := ⟨[⟨"end", .object [⟨"subgraph", true, .literal (.int 1)⟩, ⟨"u", false, .object []⟩]⟩]⟩
    let s' : Schema := ⟨[⟨"end", .object [⟨"subgraph", true, .literal (.str "1")⟩, ⟨"u", false, .union []⟩]⟩]⟩
    let text := "flowchart LR\n  subgraph end[end]\n    end.subgraph?[subgraph?: literal '1']\n" ++
      "    subgraph end.u[u]\n    end\n  end"
    (WordNames s ∧ WordNames s' ∧ flowchart s = .ok text ∧ flowchart s' = .ok text) ∧
      ∃ d, draw s = .ok d ∧ draw s' = .ok d := by
  intro s s' text
  have hs : WordNames s := ⟨by decide, by decide⟩
  have hs' : WordNames s' := ⟨by decide, by decide⟩
  have h : flowchart s = .ok text := by decide +kernel
  have h' : flowchart s' = .ok text := by decide +kernel
  exact ⟨⟨hs, hs', h, h'⟩, flowchart_inj hs hs' h h'⟩

end SchemaChart.Diagram
