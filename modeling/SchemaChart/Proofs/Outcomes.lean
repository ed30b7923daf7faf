/-
How runs end, on every platform. A request is carried out or leaves no trace: where a run fails, the files are what they
were and nothing is printed, and a flowchart that was made goes to one place, its output file, which may be the schema
file itself, or the terminal (`run_all_or_nothing`). Only a message that cannot be printed once the flowchart is written
ends a run badly that left its file behind. The output file holds the flowchart as it is. Where it is printed without
control sequences, it comes out as it is exactly when it has none (`withoutSequences_eq_self_iff`).
-/
import SchemaChart.Command.Run
import SchemaChart.Proofs.Kept
import SchemaChart.Proofs.Stored
import Mathlib.Data.List.TakeWhile

namespace SchemaChart

/-! ## Control sequences -/

namespace Text.Terminal

/-- Whether a character can stand between the bracket and the letter of a control sequence. -/
def isCode (c : Char) : Bool := c.isDigit || c == ';' || c == '?'

/-- A control sequence at the beginning of a text: an escape character, a bracket, codes, and a letter. -/
def BeginsSequence (s : List Char) : Prop :=
  ∃ codes c rest, s = '\x1b' :: '[' :: (codes ++ c :: rest) ∧ (∀ d ∈ codes, isCode d) ∧ c.isAlpha

/-- A control sequence anywhere in a text. -/
def HasSequence (s : String) : Prop := ∃ t, t <:+ s.toList ∧ BeginsSequence t

theorem not_isCode_of_isAlpha {c : Char} (h : c.isAlpha = true) : isCode c = false := by
  have hdigit : c.isDigit = false := by
    have h9 : '9'.val.toNat = 57 := rfl
    have hA : 'A'.val.toNat = 65 := rfl
    have ha : 'a'.val.toNat = 97 := rfl
    change (decide ('A'.val ≤ c.val ∧ c.val ≤ 'Z'.val) || (decide ('a'.val ≤ c.val) && decide (c.val ≤ 'z'.val))) = true
      at h
    change (decide ('0'.val ≤ c.val) && decide (c.val ≤ '9'.val)) = false
    simp only [Bool.or_eq_true, Bool.and_eq_true, Bool.and_eq_false_iff, decide_eq_true_eq, decide_eq_false_iff_not,
      UInt32.le_iff_toNat_le] at h ⊢
    omega
  have hpunctuation : ∀ d : Char, d.isAlpha = false → (c == d) = false := by
    intro d hd
    rw [beq_eq_false_iff_ne]
    rintro rfl
    rw [h] at hd
    cases hd
  rw [isCode, hdigit, hpunctuation ';' rfl, hpunctuation '?' rfl]
  rfl

theorem sequenceLength_escape (rest : List Char) : sequenceLength ('\x1b' :: '[' :: rest) =
    if (rest.dropWhile isCode).head?.any Char.isAlpha then (rest.takeWhile isCode).length + 3 else 0 := by
  have hdrop : rest.drop (rest.takeWhile isCode).length = rest.dropWhile isCode :=
    calc rest.drop (rest.takeWhile isCode).length
        = (rest.takeWhile isCode ++ rest.dropWhile isCode).drop (rest.takeWhile isCode).length := by
          rw [List.takeWhile_append_dropWhile]
      _ = rest.dropWhile isCode := List.drop_left
  rw [← hdrop]
  rfl

theorem sequenceLength_ne_zero_iff {s : List Char} : sequenceLength s ≠ 0 ↔ BeginsSequence s := by
  constructor
  · intro h
    unfold sequenceLength at h
    split at h
    · rename_i rest
      replace h : sequenceLength ('\x1b' :: '[' :: rest) ≠ 0 := h
      rw [sequenceLength_escape] at h
      split at h
      · rename_i hletter
        obtain ⟨c, hc, halpha⟩ := (Option.any_eq_true _ _).1 hletter
        obtain ⟨after, hafter⟩ := List.head?_eq_some_iff.1 hc
        refine ⟨rest.takeWhile isCode, c, after, ?_, fun d hd => List.mem_takeWhile_imp hd, halpha⟩
        rw [← hafter, List.takeWhile_append_dropWhile]
      · exact absurd rfl h
    · exact absurd rfl h
  · rintro ⟨codes, c, rest, rfl, hcodes, hc⟩
    -- a letter is no code, so the codes end in front of it
    have hstop : ¬isCode c = true := by simp [not_isCode_of_isAlpha hc]
    rw [sequenceLength_escape, List.dropWhile_append_of_pos hcodes, List.dropWhile_cons_of_neg hstop, List.head?_cons,
      Option.any_some, if_pos hc]
    exact Nat.succ_ne_zero _

theorem length_dropSequences_le (skip : Nat) (s : List Char) : (dropSequences skip s).length ≤ s.length := by
  fun_induction dropSequences skip s with
  | case1 => exact Nat.le_refl _
  | case2 skip c rest ih => exact Nat.le_succ_of_le ih
  | case3 c rest _ ih => exact Nat.succ_le_succ ih
  | case4 c rest length _ ih => exact Nat.le_succ_of_le ih

theorem dropSequences_eq_self_iff {s : List Char} :
    dropSequences 0 s = s ↔ ∀ t, t <:+ s → ¬BeginsSequence t := by
  induction s with
  | nil =>
    refine iff_of_true rfl fun t ht => ?_
    rw [List.suffix_nil.1 ht]
    rintro ⟨_, _, _, h, -⟩
    cases h
  | cons c rest ih =>
    rw [dropSequences]
    rcases hlength : sequenceLength (c :: rest) with _ | length
    · have hnot : ¬BeginsSequence (c :: rest) := mt sequenceLength_ne_zero_iff.2 (by simp [hlength])
      show c :: dropSequences 0 rest = c :: rest ↔ _
      rw [List.cons_inj_right, ih]
      constructor
      · intro h t ht
        rcases List.suffix_cons_iff.1 ht with rfl | ht
        · exact hnot
        · exact h t ht
      · intro h t ht
        exact h t (ht.trans (List.suffix_cons c rest))
    · have hbegins : BeginsSequence (c :: rest) := sequenceLength_ne_zero_iff.1 (by simp [hlength])
      -- what is left behind a sequence is too short to be the whole text
      refine iff_of_false (fun h => ?_) fun h => h _ (List.suffix_refl _) hbegins
      have hle := length_dropSequences_le length rest
      have heq : (dropSequences length rest).length = (c :: rest).length := congrArg List.length h
      rw [heq, List.length_cons] at hle
      omega

/-- A text is printed as it is exactly when there is no control sequence in it. -/
theorem withoutSequences_eq_self_iff {s : String} : withoutSequences s = s ↔ ¬HasSequence s := by
  have hlist : withoutSequences s = s ↔ dropSequences 0 s.toList = s.toList := by
    rw [withoutSequences, ← String.toList_inj, String.toList_ofList]
  rw [hlist, dropSequences_eq_self_iff, HasSequence, not_exists]
  simp only [not_and]

end Text.Terminal

/-! ## Stages -/

namespace Command

open Text.Terminal

variable {p : Platform} {env : Environment} {files : FileTree} {schema : Option String}

/-- The settings and the schema of a request. -/
def loadFile (p : Platform) (env : Environment) (files : FileTree) (schema : Option String) :
    Except Failure (Settings × Schema) := do
  let (settings, path) ← prepare p env files schema
  let s ← Schema.load files path
  pure (settings, s)

/-- What both commands make of the files: the settings, the schema that is asked for, and its drawing. -/
def drawFile (p : Platform) (env : Environment) (files : FileTree) (schema : Option String) :
    Except Failure (Settings × Schema × Diagram.Drawing) := do
  let (settings, s) ← loadFile p env files schema
  let d ← (Diagram.draw s).mapError Failure.diagram
  pure (settings, s, d)

/-- The text that a request for a flowchart asks for. -/
def chartText (p : Platform) (env : Environment) (files : FileTree) (schema : Option String) (fence : Option Bool) :
    Except Failure String :=
  (drawFile p env files schema).map fun (settings, _, d) => finish (fence.getD settings.fence) d.flowchart

/-- What is made of a file with the given members of an object. -/
theorem drawFile_holding {text : String} {pairs : List (String × Json)} {s : Schema} {d : Diagram.Drawing}
    (hplain : (text.toList.all fun c => c.toNat < 0x80 && c != '\r') = true)
    (hmembers : Json.members? text = some pairs)
    (hs : Schema.ofJson (.obj (Dictionary.ofPairs pairs)) = .ok s) (hd : Diagram.draw s = .ok d) :
    drawFile p [] (.holding text) (some "schema.json") = .ok (.default, s, d) := by
  have hprepare : prepare p [] (.holding text) (some "schema.json") = .ok (.default, ⟨"", ["schema.json"]⟩) := rfl
  unfold drawFile loadFile
  rw [hprepare]
  simp only [bind, Except.bind, pure, Except.pure, Schema.load_of_members (FileTree.readText_holding hplain) hmembers,
    hs, hd]
  rfl

/-! ## Failures -/

/-- The outcome of a failure: the files are what they were, and nothing is printed. -/
structure Traceless (files : FileTree) (o : Outcome) : Prop where
  fails : o.exitCode = 1
  files : o.files = files
  stdout : o.stdout = ""

theorem traceless_abandoned (r : Progress) : Traceless r.files r.abandoned :=
  ⟨rfl, rfl, rfl⟩

theorem traceless_reported (p : Platform) (r : Progress) (text : String) : Traceless r.files (reported p r text) := by
  unfold reported
  split
  · rename_i line _
    exact traceless_abandoned { r with messages := r.messages ++ [line] }
  · exact traceless_abandoned r

theorem traceless_failed (p : Platform) (r : Progress) (e : Failure) : Traceless r.files (failed p r e) :=
  traceless_reported p r e.message

theorem traceless_faulted (p : Platform) (r : Progress) (fault : Fault) : Traceless r.files (faulted p r fault) := by
  cases fault with
  | caught text => exact traceless_reported p r text
  | uncaught => exact traceless_abandoned r

theorem Traceless.not_succeeds {o : Outcome} (h : Traceless files o) : o.exitCode ≠ 0 := by
  rw [h.fails]
  exact Nat.one_ne_zero

/-! ## Messages -/

/-- Whether a message can be printed. -/
def Platform.Prints (p : Platform) (m : Message) : Prop := ∃ line, p.message m = .ok line

theorem say_of_ok {m : Message} {line : String} (h : p.message m = .ok line) (r : Progress)
    (next : Progress → Outcome) : say p r m next = next { r with messages := r.messages ++ [line] } := by
  rw [say, h]

theorem traceless_say {m : Message} (h : ¬p.Prints m) (r : Progress) (next : Progress → Outcome) :
    Traceless r.files (say p r m next) := by
  unfold say
  split
  · rename_i line hline
    exact absurd ⟨line, hline⟩ h
  · exact traceless_faulted p r _

/-- The message before a schema is loaded can be printed. -/
def Loads (p : Platform) (env : Environment) (files : FileTree) (schema : Option String) : Prop :=
  ∀ settings path, prepare p env files schema = .ok (settings, path) → p.Prints (.loading path)

/-- The messages before a flowchart is made can be printed. -/
structure Announced (p : Platform) (env : Environment) (files : FileTree) (schema : Option String) : Prop where
  loading : Loads p env files schema
  generating : p.Prints .generating

theorem withSchema_eq (h : Loads p env files schema) (next : Settings → Schema → Progress → Outcome) :
    ∃ messages, withSchema p env files schema next =
      match loadFile p env files schema with
      | .error e => failed p ⟨messages, files⟩ e
      | .ok (settings, s) => next settings s ⟨messages, files⟩ := by
  unfold withSchema loadFile
  simp only [bind, Except.bind]
  rcases hprepare : prepare p env files schema with e | ⟨settings, path⟩
  · exact ⟨[], rfl⟩
  · dsimp only
    obtain ⟨loading, hloading⟩ := h settings path hprepare
    refine ⟨[loading], ?_⟩
    rw [say_of_ok hloading]
    rcases Schema.load files path with e | s <;> rfl

theorem traceless_withSchema (h : ¬Loads p env files schema) (next : Settings → Schema → Progress → Outcome) :
    Traceless files (withSchema p env files schema next) := by
  unfold withSchema
  split
  · exact traceless_failed p ⟨[], files⟩ _
  · rename_i settings path hprepare
    refine traceless_say (fun hloading => h ?_) ⟨[], files⟩ _
    rintro _ _ hagain
    cases hprepare.symm.trans hagain
    exact hloading

/-- A request for a flowchart that can be announced delivers it once it is made. -/
theorem generate_eq (h : Announced p env files schema) (output : Option String) (fence : Option Bool) :
    ∃ messages, generate p env files schema output fence =
      match chartText p env files schema fence with
      | .error e => failed p ⟨messages, files⟩ e
      | .ok text => deliver p ⟨messages, files⟩ output text := by
  unfold generate chartText drawFile Schema.chart Diagram.flowchart
  obtain ⟨messages, hwith⟩ := withSchema_eq h.loading _
  obtain ⟨generating, hgenerating⟩ := h.generating
  rw [hwith]
  rcases loadFile p env files schema with e | ⟨settings, s⟩
  · exact ⟨messages, rfl⟩
  · refine ⟨messages ++ [generating], ?_⟩
    dsimp only
    rw [say_of_ok hgenerating]
    simp only [bind, Except.bind]
    rcases Diagram.draw s with e | d <;> rfl

/-- A request for a flowchart that cannot be announced leaves no trace. -/
theorem traceless_generate (h : ¬Announced p env files schema) (output : Option String) (fence : Option Bool) :
    Traceless files (generate p env files schema output fence) := by
  unfold generate
  by_cases hloads : Loads p env files schema
  · have hgenerating : ¬p.Prints .generating := fun hgenerating => h ⟨hloads, hgenerating⟩
    obtain ⟨messages, hwith⟩ := withSchema_eq hloads _
    rw [hwith]
    split
    · exact traceless_failed p ⟨messages, files⟩ _
    · exact traceless_say hgenerating ⟨messages, files⟩ _
  · exact traceless_withSchema hloads _

/-- A request for a listing whose schema can be loaded prints it once there is a drawing. -/
theorem showSchema_eq (h : Loads p env files schema) : ∃ messages, showSchema p env files schema =
    match drawFile p env files schema with
    | .error e => failed p ⟨messages, files⟩ e
    | .ok (_, s, d) => printed p ⟨messages, files⟩ (p.grid (Listing.grid s d)) := by
  unfold showSchema drawFile
  obtain ⟨messages, hwith⟩ := withSchema_eq h _
  rw [hwith]
  refine ⟨messages, ?_⟩
  simp only [bind, Except.bind]
  rcases loadFile p env files schema with e | ⟨settings, s⟩
  · rfl
  · dsimp only
    rcases Diagram.draw s with e | d <;> rfl

/-- Whether a text can go where it is to go: to the output file, which has to be said as well, or else to the
terminal. -/
def Deliverable (p : Platform) (files : FileTree) (output : Option String) (text : String) : Prop :=
  match output with
  | some out => files.place? (.ofText out) ≠ none ∧ p.Prints (.written (.ofText out))
  | none => ∃ shown, p.print text = .ok shown

/-- Where a text goes: to the output file as it is, or else to the terminal as it is printed. -/
structure Delivered (p : Platform) (files : FileTree) (output : Option String) (text : String) (o : Outcome) :
    Prop where
  succeeds : o.exitCode = 0
  written : ∀ out, output = some out →
    o.stdout = "" ∧ files.Rewrites o.files (.ofText out) (text ++ "\n").toUTF8.toList
  printed : output = none → o.files = files ∧ ∃ shown, p.print text = .ok shown ∧ o.stdout = shown ++ "\n"

/-- Where a text is printed without its control sequences, it comes out as it is exactly when it has none. -/
theorem Delivered.stdout_eq_iff {text : String} {o : Outcome} (h : Delivered p files none text o)
    (hprint : p.print text = .ok (withoutSequences text)) : o.stdout = text ++ "\n" ↔ ¬HasSequence text := by
  obtain ⟨-, shown, hshown, hstdout⟩ := h.printed rfl
  cases hprint.symm.trans hshown
  rw [hstdout, String.append_left_inj]
  exact withoutSequences_eq_self_iff

/-- The outcome of a text that is written, which then cannot be said. -/
structure Unannounced (p : Platform) (files : FileTree) (output : Option String) (text : String) (o : Outcome) :
    Prop where
  fails : o.exitCode = 1
  stdout : o.stdout = ""
  written : ∃ out, output = some out ∧ ¬p.Prints (.written (.ofText out)) ∧
    files.Rewrites o.files (.ofText out) (text ++ "\n").toUTF8.toList

/-- A text that can be delivered is delivered. Any other leaves no trace, unless it is written already. -/
theorem deliver_cases (p : Platform) (r : Progress) (output : Option String) (text : String) :
    let o := deliver p r output text
    (Deliverable p r.files output text ∧ Delivered p r.files output text o) ∨
      (¬Deliverable p r.files output text ∧ (Traceless r.files o ∨ Unannounced p r.files output text o)) := by
  cases output with
  | none =>
    unfold deliver Deliverable
    dsimp only
    rcases hprint : p.print text with fault | shown
    · refine .inr ⟨?_, .inl (traceless_faulted p r fault)⟩
      rintro ⟨_, h⟩
      cases h
    · exact .inl ⟨⟨shown, rfl⟩, rfl, fun _ h => (by cases h), fun _ => ⟨rfl, shown, hprint, rfl⟩⟩
  | some out =>
    unfold deliver Deliverable writeText
    dsimp only
    rcases r.files.write_rewrites (.ofText out) (text ++ "\n").toUTF8.toList with
      ⟨after, hwrite, hrewrites⟩ | ⟨⟨e, hwrite⟩, hplace⟩
    · rw [hwrite]
      dsimp only
      have hplace : r.files.place? (.ofText out) ≠ none := by
        obtain ⟨place, hplace, -⟩ := hrewrites.changed
        simp [hplace]
      by_cases hsaid : p.Prints (.written (.ofText out))
      · obtain ⟨line, hline⟩ := hsaid
        rw [say_of_ok hline]
        refine .inl ⟨⟨hplace, line, hline⟩, rfl, ?_, fun h => by cases h⟩
        rintro _ ⟨⟩
        exact ⟨rfl, hrewrites⟩
      · obtain ⟨hfails, hfiles, hstdout⟩ := traceless_say hsaid { r with files := after } _
        exact .inr ⟨fun h => hsaid h.2, .inr ⟨hfails, hstdout, out, rfl, hsaid, hfiles ▸ hrewrites⟩⟩
    · rw [hwrite]
      exact .inr ⟨fun h => h.1 hplace, .inl (traceless_failed p r _)⟩

/-! ## Outcomes -/

/-- A run that ends well, or else leaves no trace. -/
structure AllOrNothing (files : FileTree) (o : Outcome) : Prop where
  code : o.exitCode = 0 ∨ o.exitCode = 1
  nothing : o.exitCode = 1 → o.files = files ∧ o.stdout = ""

theorem allOrNothing_of_succeeds {o : Outcome} (h : o.exitCode = 0) : AllOrNothing files o := by
  refine ⟨.inl h, fun hfails => ?_⟩
  rw [h] at hfails
  cases hfails

theorem Traceless.allOrNothing {o : Outcome} (h : Traceless files o) : AllOrNothing files o :=
  ⟨.inr h.fails, fun _ => ⟨h.files, h.stdout⟩⟩

/-- The flowchart of a request is there, and nothing keeps it from going where it is to go. -/
def Succeeds (p : Platform) (env : Environment) (files : FileTree) (schema output : Option String)
    (fence : Option Bool) : Prop :=
  Announced p env files schema ∧
    ∃ text, chartText p env files schema fence = .ok text ∧ Deliverable p files output text

/-- A request for a flowchart delivers it, or leaves no trace, unless it is written and that cannot be said. -/
theorem generate_cases (p : Platform) (env : Environment) (files : FileTree) (schema output : Option String)
    (fence : Option Bool) :
    let o := generate p env files schema output fence
    (Succeeds p env files schema output fence ∧
        ∃ text, chartText p env files schema fence = .ok text ∧ Delivered p files output text o) ∨
      (¬Succeeds p env files schema output fence ∧ (Traceless files o ∨
        ∃ text, chartText p env files schema fence = .ok text ∧ Unannounced p files output text o)) := by
  intro o
  by_cases hannounced : Announced p env files schema
  · obtain ⟨messages, hgenerate⟩ := generate_eq hannounced output fence
    simp only [o, hgenerate]
    rcases htext : chartText p env files schema fence with e | text
    · refine .inr ⟨?_, .inl (traceless_failed p ⟨messages, files⟩ e)⟩
      rintro ⟨-, text, h, -⟩
      cases htext.symm.trans h
    · rcases deliver_cases p ⟨messages, files⟩ output text with ⟨hcan, hdelivered⟩ | ⟨hcannot, hends⟩
      · exact .inl ⟨⟨hannounced, text, htext, hcan⟩, text, rfl, hdelivered⟩
      · refine .inr ⟨?_, hends.imp_right fun h => ⟨text, rfl, h⟩⟩
        rintro ⟨-, _, h, hcan⟩
        cases htext.symm.trans h
        exact hcannot hcan
  · exact .inr ⟨fun h => hannounced h.1, .inl (traceless_generate hannounced output fence)⟩

/-- A request for a flowchart ends well exactly when nothing keeps it from that. -/
theorem exitCode_generate_iff (p : Platform) (env : Environment) (files : FileTree) (schema output : Option String)
    (fence : Option Bool) :
    (generate p env files schema output fence).exitCode = 0 ↔ Succeeds p env files schema output fence := by
  rcases generate_cases p env files schema output fence with ⟨hsucceeds, _, -, hdelivered⟩ | ⟨hnot, hends⟩
  · exact iff_of_true hdelivered.succeeds hsucceeds
  · refine iff_of_false ?_ hnot
    rcases hends with htraceless | ⟨_, -, hwritten⟩
    · exact htraceless.not_succeeds
    · rw [hwritten.fails]
      exact Nat.one_ne_zero

/-- A request for a flowchart that ends well has delivered it. -/
theorem delivered_of_exitCode {output : Option String} {fence : Option Bool}
    (h : (generate p env files schema output fence).exitCode = 0) :
    ∃ text, chartText p env files schema fence = .ok text ∧
      Delivered p files output text (generate p env files schema output fence) := by
  rcases generate_cases p env files schema output fence with ⟨-, hdelivered⟩ | ⟨hnot, -⟩
  · exact hdelivered
  · exact absurd ((exitCode_generate_iff ..).1 h) hnot

/-- There is a drawing, and this is printed for its listing. -/
def Lists (p : Platform) (env : Environment) (files : FileTree) (schema : Option String) (out : String) : Prop :=
  Loads p env files schema ∧
    ∃ settings s d, drawFile p env files schema = .ok (settings, s, d) ∧ p.grid (Listing.grid s d) = .ok out

/-- A request for a listing prints it, or leaves no trace. -/
theorem showSchema_cases (p : Platform) (env : Environment) (files : FileTree) (schema : Option String) :
    let o := showSchema p env files schema
    (∃ out, Lists p env files schema out ∧ o.exitCode = 0 ∧ o.stdout = out ++ "\n" ∧ o.files = files) ∨
      (¬∃ out, Lists p env files schema out) ∧ Traceless files o := by
  intro o
  by_cases hloads : Loads p env files schema
  · obtain ⟨messages, hshow⟩ := showSchema_eq hloads
    simp only [o, hshow]
    rcases hdrawing : drawFile p env files schema with e | ⟨settings, s, d⟩
    · refine .inr ⟨?_, traceless_failed p ⟨messages, files⟩ e⟩
      rintro ⟨_, -, _, _, _, h, -⟩
      cases hdrawing.symm.trans h
    · dsimp only
      rcases hgrid : p.grid (Listing.grid s d) with fault | out
      · refine .inr ⟨?_, traceless_faulted p ⟨messages, files⟩ fault⟩
        rintro ⟨_, -, _, _, _, h, hout⟩
        cases hdrawing.symm.trans h
        cases hgrid.symm.trans hout
      · exact .inl ⟨out, ⟨hloads, settings, s, d, hdrawing, hgrid⟩, rfl, rfl, rfl⟩
  · refine .inr ⟨?_, traceless_withSchema hloads _⟩
    rintro ⟨_, h, -⟩
    exact hloads h

/-- A run of a request ends well or leaves no trace, unless the flowchart is written and that cannot be said. A request
for a flowchart ends well exactly when the files as they are give one and nothing keeps it from going where it is to go.
The flowchart with a line end then goes either to the output file, and nothing else changes, or to the terminal, and
nothing changes; where it is printed without its control sequences, it comes out as it is exactly when it has none. A
request for a listing changes nothing. -/
theorem run_all_or_nothing {arguments : List String} {request : Request}
    (h : p.invocation arguments = .request request) :
    let o := run p env files arguments
    (AllOrNothing files o ∨ ∃ schema output fence text, request = .generate schema output fence ∧
      chartText p env files schema fence = .ok text ∧ Unannounced p files output text o) ∧
    (∀ schema output fence, request = .generate schema output fence →
      (o.exitCode = 0 ↔ Succeeds p env files schema output fence) ∧
      (o.exitCode = 0 → ∃ text, chartText p env files schema fence = .ok text ∧ Delivered p files output text o ∧
        (output = none → p.print text = .ok (withoutSequences text) →
          (o.stdout = text ++ "\n" ↔ ¬HasSequence text)))) ∧
    ∀ schema, request = .showSchema schema → o.files = files := by
  have hrun : run p env files arguments = request.run p env files := by simp only [run, h]
  rw [hrun]
  cases request with
  | generate schema output fence =>
    refine ⟨?_, ?_, by rintro _ ⟨⟩⟩
    · rcases generate_cases p env files schema output fence with
        ⟨-, _, -, hdelivered⟩ | ⟨-, htraceless | ⟨text, htext, hwritten⟩⟩
      · exact .inl (allOrNothing_of_succeeds hdelivered.succeeds)
      · exact .inl htraceless.allOrNothing
      · exact .inr ⟨schema, output, fence, text, rfl, htext, hwritten⟩
    · rintro _ _ _ ⟨⟩
      refine ⟨exitCode_generate_iff p env files schema output fence, fun hzero => ?_⟩
      obtain ⟨text, htext, hdelivered⟩ := delivered_of_exitCode hzero
      refine ⟨text, htext, hdelivered, ?_⟩
      rintro rfl hprint
      exact hdelivered.stdout_eq_iff hprint
  | showSchema schema =>
    rcases showSchema_cases p env files schema with ⟨_, -, hsucceeds, -, hfiles⟩ | ⟨-, htraceless⟩
    · exact ⟨.inl (allOrNothing_of_succeeds hsucceeds), by rintro _ _ _ ⟨⟩, fun _ _ => hfiles⟩
    · exact ⟨.inl htraceless.allOrNothing, by rintro _ _ _ ⟨⟩, fun _ _ => htraceless.files⟩

/-- On a usual terminal a request for a flowchart of the file `schema.json` can be announced. -/
theorem announced_holding (text : String) :
    Announced (.ofColumns 80) [] (.holding text) (some "schema.json") := by
  constructor
  · rintro _ _ ⟨⟩
    exact ⟨"Loading schema from schema.json...", by decide +kernel⟩
  · exact ⟨"Generating flowchart...", by decide +kernel⟩

/-- A flowchart with a table, written to the file with its schema, and printed. -/
theorem run_all_or_nothing_schema_file :
    let p := Platform.ofColumns 80
    let files := FileTree.holding "\x7b\"t\":\x7b\"type\":\"object\",\"value\":\x7b\x7d\x7d\x7d"
    let text := "flowchart LR\n  subgraph t[t]\n  end"
    let writing := ["generate", "schema.json", "-o", "schema.json"]
    let printing := ["generate", "schema.json"]
    let o := run p [] files writing
    let o' := run p [] files printing
    (p.invocation writing = .request (.generate (some "schema.json") (some "schema.json") none) ∧
      o.exitCode = 0 ∧ o.stdout = "" ∧ files.Rewrites o.files (.ofText "schema.json") (text ++ "\n").toUTF8.toList) ∧
    p.invocation printing = .request (.generate (some "schema.json") none none) ∧
      o'.exitCode = 0 ∧ o'.stdout = text ++ "\n" ∧ o'.files = files := by
  intro p files text writing printing o o'
  have hdraw : drawFile p [] files (some "schema.json") = .ok (.default, ⟨[⟨"t", .object []⟩]⟩, _) :=
    drawFile_holding (by decide +kernel)
      (show _ = some [("t", .obj [("type", .str "object"), ("value", .obj [])])] by decide +kernel) rfl rfl
  have htext : chartText p [] files (some "schema.json") none = .ok text := by
    rw [chartText, hdraw]
    rfl
  have hannounced : Announced p [] files (some "schema.json") := announced_holding _
  refine ⟨?_, ?_⟩
  · have hrequest : p.invocation writing = .request (.generate (some "schema.json") (some "schema.json") none) := by
      decide +kernel
    have hwritten : p.Prints (.written (.ofText "schema.json")) :=
      ⟨"✓ Flowchart written to schema.json", by decide +kernel⟩
    have hplace : files.place? (.ofText "schema.json") ≠ none := by decide +kernel
    obtain ⟨-, hgenerate, -⟩ := @run_all_or_nothing p [] files writing _ hrequest
    obtain ⟨hsucceeds, hdelivered⟩ := hgenerate _ _ _ rfl
    have hcode : o.exitCode = 0 := hsucceeds.2 ⟨hannounced, text, htext, hplace, hwritten⟩
    obtain ⟨text', hmade, hdelivered, -⟩ := hdelivered hcode
    cases htext.symm.trans hmade
    obtain ⟨hstdout, hrewrites⟩ := hdelivered.written _ rfl
    exact ⟨hrequest, hcode, hstdout, hrewrites⟩
  · have hrequest : p.invocation printing = .request (.generate (some "schema.json") none none) := by decide +kernel
    obtain ⟨-, hgenerate, -⟩ := @run_all_or_nothing p [] files printing _ hrequest
    obtain ⟨hsucceeds, hdelivered⟩ := hgenerate _ _ _ rfl
    have hcode : o'.exitCode = 0 := hsucceeds.2 ⟨hannounced, text, htext, _, rfl⟩
    obtain ⟨text', hmade, hdelivered, hstdout⟩ := hdelivered hcode
    cases htext.symm.trans hmade
    have hplain : ¬HasSequence text := withoutSequences_eq_self_iff.1 (by decide +kernel)
    exact ⟨hrequest, hcode, (hstdout rfl rfl).2 hplain, (hdelivered.printed rfl).1⟩

/-- A control sequence in the name of a table is not printed. -/
theorem not_printed_sequence :
    let p := Platform.ofColumns 80
    let files := FileTree.holding "\x7b\"\\u001b[0mt\":\x7b\"type\":\"object\",\"value\":\x7b\x7d\x7d\x7d"
    let arguments := ["generate", "schema.json"]
    let text := "flowchart LR\n  subgraph \x1b[0mt[\x1b[0mt]\n  end"
    let o := run p [] files arguments
    p.invocation arguments = .request (.generate (some "schema.json") none none) ∧
      chartText p [] files (some "schema.json") none = .ok text ∧ o.exitCode = 0 ∧
      o.stdout = "flowchart LR\n  subgraph t[t]\n  end\n" ∧ o.stdout ≠ text ++ "\n" := by
  intro p files arguments text o
  have hrequest : p.invocation arguments = .request (.generate (some "schema.json") none none) := by decide +kernel
  have hdraw : drawFile p [] files (some "schema.json") = .ok (.default, ⟨[⟨"\x1b[0mt", .object []⟩]⟩, _) :=
    drawFile_holding (by decide +kernel)
      (show _ = some [("\x1b[0mt", .obj [("type", .str "object"), ("value", .obj [])])] by decide +kernel) rfl rfl
  have htext : chartText p [] files (some "schema.json") none = .ok text := by
    rw [chartText, hdraw]
    rfl
  obtain ⟨messages, hgenerate⟩ := generate_eq (announced_holding _) none none
  have ho : o = ⟨0, withoutSequences text ++ "\n", messages, files⟩ := by
    simp only [o, run, hrequest, Request.run]
    rw [hgenerate, htext]
    rfl
  have hstdout : o.stdout = "flowchart LR\n  subgraph t[t]\n  end\n" := by
    rw [ho]
    show withoutSequences text ++ "\n" = _
    decide +kernel
  refine ⟨hrequest, htext, by rw [ho], hstdout, ?_⟩
  rw [hstdout]
  decide +kernel

end Command

end SchemaChart
