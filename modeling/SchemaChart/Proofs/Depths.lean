/-
The depth of lines in closed form. A line lies one level deeper for each line before it that opens a level, and one
level less deep for each line up to it, itself included, that closes one (`depthAt`). The depth counts on below zero
where more levels are closed than were open, and a line there is not indented. Blank lines open and close nothing. So
all that a segment does to the lines behind it is to move them by the levels that it opens and does not close, and it
leaves every line behind it where it was exactly when it closes as many as it opens (`indentLines_eq_depths`).
-/
import SchemaChart.Proofs.Indentation

namespace SchemaChart.Diagram

/-! ## Levels counted -/

/-- The number of lines that open a level. -/
def levelsOpened (lines : List String) : Nat :=
  lines.countP fun line => "subgraph ".toList <+: line.toList ∨ "flowchart ".toList <+: line.toList

/-- The number of lines that close a level. -/
def levelsClosed (lines : List String) : Nat := lines.count "end"

theorem opensLevel_iff {line : String} : opensLevel line = true ↔
    "subgraph ".toList <+: line.toList ∨ "flowchart ".toList <+: line.toList := by
  simp only [opensLevel, openers, List.any_cons, List.any_nil, Bool.or_false, Bool.or_eq_true, List.isPrefixOf_iff_prefix]

theorem levelsOpened_cons (line : String) (rest : List String) :
    levelsOpened (line :: rest) = levelsOpened rest + if opensLevel line then 1 else 0 := by
  unfold levelsOpened
  simp only [List.countP_cons, decide_eq_true_eq, opensLevel_iff]

theorem levelsClosed_cons (line : String) (rest : List String) :
    levelsClosed (line :: rest) = levelsClosed rest + if line = endLine then 1 else 0 := by
  rw [levelsClosed, List.count_cons]
  simp only [beq_iff_eq]
  rfl

theorem kept_of_prefix {word line : String} (hw : Text.isBlankText word = false) (h : word.toList <+: line.toList) :
    Text.isBlankText line = false := by
  obtain ⟨rest, hrest⟩ := h
  rw [Text.isBlankText] at hw ⊢
  rw [← hrest, List.all_append, hw, Bool.false_and]

/-- A line that opens a level is not blank, as it begins with a word. -/
theorem kept_of_opensLevel {line : String} (h : opensLevel line = true) : Text.isBlankText line = false := by
  rcases opensLevel_iff.1 h with hp | hp
  · exact kept_of_prefix (by decide) hp
  · exact kept_of_prefix (by decide) hp

/-- Blank lines need no case of their own, as none of them opens or closes a level. -/
theorem rise_eq (line : String) :
    rise line = (if opensLevel line then 1 else 0) - if line = endLine then 1 else 0 := by
  unfold rise
  split
  · next hb =>
    have ho : opensLevel line ≠ true := fun ho => by rw [kept_of_opensLevel ho] at hb; cases hb
    have he : line ≠ endLine := by rintro rfl; revert hb; decide
    rw [if_neg ho, if_neg he]
    rfl
  · rfl

theorem climb_eq (lines : List String) : climb lines = levelsOpened lines - levelsClosed lines := by
  induction lines with
  | nil => rfl
  | cons line rest ih =>
    rw [climb_cons, ih, rise_eq, levelsOpened_cons, levelsClosed_cons]
    split <;> split <;> (push_cast; omega)

/-! ## Depths of lines -/

/-- The depth of the line at an index: the levels that the lines before it open, less those that the lines up to it
close. -/
def depthAt (lines : List String) (i : Nat) : Int := levelsOpened (lines.take i) - levelsClosed (lines.take (i + 1))

theorem depthAt_zero (line : String) (rest : List String) :
    depthAt (line :: rest) 0 = if line = endLine then -1 else 0 := by
  rw [depthAt, List.take_zero, List.take_succ_cons, List.take_zero, levelsClosed_cons]
  split <;> rfl

theorem depthAt_succ (line : String) (rest : List String) (i : Nat) :
    depthAt (line :: rest) (i + 1) = rise line + depthAt rest i := by
  rw [depthAt, depthAt, List.take_succ_cons, List.take_succ_cons, levelsOpened_cons, levelsClosed_cons, rise_eq]
  split <;> split <;> (push_cast; omega)

/-- Lines are indented by their depths, added to the depth that they begin at. -/
theorem indentFrom_depths (depth : Int) (lines : List String) : indentFrom depth lines =
    ((lines.mapIdx fun i line => (depth + depthAt lines i, line)).filter fun x => !Text.isBlankText x.2).map
      fun x => indentation x.1 ++ x.2 := by
  induction lines generalizing depth with
  | nil => rfl
  | cons line rest ih =>
    simp only [List.mapIdx_cons, depthAt_zero, depthAt_succ, ← Int.add_assoc]
    rcases hb : Text.isBlankText line with _ | _
    · have hhere : (if line = endLine then depth - 1 else depth) = depth + if line = endLine then -1 else 0 := by
        split <;> omega
      rw [indentFrom_cons hb, ih, hhere, List.filter_cons_of_pos (by simp [hb]), List.map_cons]
    · have hrise : rise line = 0 := by rw [rise, if_pos hb]
      rw [indentFrom, if_pos hb, ih, hrise, Int.add_zero, List.filter_cons_of_neg (by simp [hb])]

theorem indentation_eq_spaces (depth : Int) : indentation depth = spaces (2 * (max 0 depth).toNat) := by
  have hclamped : (max 0 depth).toNat = depth.toNat := by omega
  rw [hclamped]
  rfl

theorem indentLines_depths (lines : List String) : indentLines lines =
    ((lines.mapIdx fun i line => (depthAt lines i, line)).filter fun x => !Text.isBlankText x.2).map
      fun x => spaces (2 * (max 0 x.1).toNat) ++ x.2 := by
  rw [indentLines, indentFrom_depths]
  simp only [Int.zero_add, indentation_eq_spaces]

/-! ## Segments -/

/-- Lines behind others are indented from the depth behind these. -/
theorem indentLines_append (above below : List String) :
    indentLines (above ++ below) = indentLines above ++ indentFrom (climb above) below := by
  rw [indentLines, indentFrom_append, Int.zero_add]
  rfl

theorem climb_replicate (n : Nat) : climb (List.replicate n declarationLine) = n := by
  induction n with
  | zero => rfl
  | succ n ih =>
    rw [List.replicate_succ, climb_declarationLine, ih]
    rfl

theorem indentation_inj {depth shift : Int} (h : 0 ≤ depth) (hs : 0 ≤ depth + shift) :
    indentation (depth + shift) = indentation depth ↔ shift = 0 := by
  rw [indentation_eq_spaces, indentation_eq_spaces, spaces_inj]
  omega

/-- The lines behind a segment are indented as without it exactly when the depth behind it is the one before it. -/
theorem climb_eq_zero_iff {segment : List String} : climb segment = 0 ↔
    ∀ above below, indentFrom (climb (above ++ segment)) below = indentFrom (climb above) below := by
  constructor
  · intro h above below
    rw [climb_append, h, Int.add_zero]
  · intro h
    -- under so many open levels no depth is below zero, so none is lost in the indentation
    have hdeep := h (List.replicate (climb segment).natAbs declarationLine) [declarationLine]
    rw [climb_append, climb_replicate, indentFrom_cons (by decide), indentFrom_cons (by decide),
      if_neg (by decide), if_neg (by decide), indentFrom, indentFrom] at hdeep
    have hsame := (String.append_left_inj _).1 (List.cons.inj hdeep).1
    exact (indentation_inj (by omega) (by omega)).1 hsame

theorem levels_match_iff {segment : List String} : levelsOpened segment = levelsClosed segment ↔ climb segment = 0 := by
  rw [climb_eq]
  omega

/-- Indented lines are those that are not blank, in their order, each behind two spaces for every level of its depth.
A segment leaves the indentation of all lines behind it as it is, whatever stands before and behind it, exactly when
it opens as many levels as it closes. -/
theorem indentLines_eq_depths :
    (∀ lines, indentLines lines =
      ((lines.mapIdx fun i line => (depthAt lines i, line)).filter fun x => !Text.isBlankText x.2).map
        fun x => spaces (2 * (max 0 x.1).toNat) ++ x.2) ∧
    ∀ segment, levelsOpened segment = levelsClosed segment ↔ ∀ above below, ∃ shown,
      indentLines (above ++ below) = indentLines above ++ shown ∧
      indentLines (above ++ segment ++ below) = indentLines (above ++ segment) ++ shown := by
  refine ⟨indentLines_depths, fun segment => ?_⟩
  rw [levels_match_iff, climb_eq_zero_iff]
  constructor
  · intro h above below
    refine ⟨indentFrom (climb above) below, indentLines_append above below, ?_⟩
    rw [indentLines_append, h]
  · intro h above below
    obtain ⟨shown, hwithout, hwith⟩ := h above below
    rw [indentLines_append, List.append_cancel_left_eq] at hwithout hwith
    rw [hwith, hwithout]

/-- The depths of the lines that are shown are -1, -1, 0, 0 and 1. -/
example : indentLines ["end", "subgraph a", "b", " ", "flowchart end", "end."] =
    ["end", "subgraph a", "b", "flowchart end", "  end."] := by decide

end SchemaChart.Diagram
