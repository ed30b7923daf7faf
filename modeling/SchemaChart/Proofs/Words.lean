/-
Names that are words. Where tables, fields and references are named by ASCII letters, digits and underscores,
all names on the way to a place are made of these, of dots and of question marks (`nameText_chain`), and so is
its identifier (`nameText_joinNames`). Where no literal text breaks the line, what is shown at a place does not
either (`oneLine_label`): numbers are written in digits, signs and a few letters.
-/
import SchemaChart.Proofs.Edges

namespace SchemaChart

/-! ## Words -/

/-- One or more ASCII letters, digits and underscores. -/
def IsWord (s : String) : Prop := s ≠ "" ∧ s.toList.all (fun c => c.isAlphanum || c == '_') = true

/-- A text without a line break. -/
def OneLine (s : String) : Prop := '\n' ∉ s.toList

instance (s : String) : Decidable (IsWord s) := inferInstanceAs (Decidable (_ ∧ _))

instance (s : String) : Decidable (OneLine s) := inferInstanceAs (Decidable (¬ _))

namespace TypeTree

/-- The names that a type holds are words, and a text that it holds is on one line. -/
def Wordy : TypeTree → Prop
  | .object fields => ∀ f ∈ fields, IsWord f.name
  | .reference table => IsWord table
  | .literal (.str s) => OneLine s
  | _ => True

instance : (t : TypeTree) → Decidable t.Wordy
  | .object fields => inferInstanceAs (Decidable (∀ f ∈ fields, IsWord f.name))
  | .reference table => inferInstanceAs (Decidable (IsWord table))
  | .literal (.str s) => inferInstanceAs (Decidable (OneLine s))
  | .literal (.bool _) | .literal (.int _) | .literal (.real _) => inferInstanceAs (Decidable True)
  | .primitive _ | .union _ | .array _ | .record _ _ => inferInstanceAs (Decidable True)

end TypeTree

/-- All names in a schema are words, and all texts are on one line. -/
structure WordNames (s : Schema) : Prop where
  tables : ∀ t ∈ s.tables, IsWord t.name
  places : ∀ t ∈ s.tables, ∀ x ∈ t.type.places, x.type.Wordy

namespace Diagram

open TypeTree

/-! ## Names of places -/

/-- The characters in the identifier of a place when all names are words. -/
def isNameChar (c : Char) : Bool := c.isAlphanum || c == '_' || c == '?' || c == '.'

/-- A text made of the characters of identifiers. -/
structure NameText (s : String) : Prop where
  ne_empty : s ≠ ""
  chars : s.toList.all isNameChar = true

theorem NameText.not_mem {s : String} (h : NameText s) {c : Char} (hc : isNameChar c = false) : c ∉ s.toList := by
  intro hm
  rw [List.all_eq_true.1 h.chars c hm] at hc
  cases hc

theorem NameText.append {a b : String} (ha : NameText a) (hb : b.toList.all isNameChar = true) :
    NameText (a ++ b) := by
  refine ⟨fun h => ha.ne_empty (String.append_eq_empty_iff.1 h).1, ?_⟩
  rw [String.toList_append, List.all_append, ha.chars, hb]
  rfl

theorem isDigit_of_mem_toString {i : Nat} {c : Char} (h : c ∈ (toString i).toList) : c.isDigit = true := by
  have hd : c ∈ Nat.toDigits 10 i := by rw [← Nat.toList_repr]; exact h
  exact Nat.isDigit_of_mem_toDigits (by decide) (by decide) hd

theorem nameText_of_isWord {s : String} (h : IsWord s) : NameText s := by
  refine ⟨h.1, List.all_eq_true.2 fun c hc => ?_⟩
  have hword := List.all_eq_true.1 h.2 c hc
  simp only [isNameChar, hword, Bool.true_or]

theorem nameText_of_mem_children {t : TypeTree} (h : t.Wordy) : ∀ c ∈ t.children, NameText c.name := by
  cases t with
  | object fields =>
    intro c hc
    obtain ⟨f, hf, rfl⟩ := List.mem_map.1 hc
    have hword := nameText_of_isWord (h f hf)
    unfold fieldChild
    dsimp only
    split
    · exact hword.append (by decide)
    · exact hword
  | union members =>
    intro c hc
    obtain ⟨i, hi, rfl⟩ := List.mem_mapIdx.1 hc
    refine NameText.append ⟨by decide, by decide⟩ (List.all_eq_true.2 fun c hc => ?_)
    simp [isNameChar, Char.isAlphanum, isDigit_of_mem_toString hc]
  | array element =>
    intro c hc
    obtain rfl : c = elementChild element := List.mem_singleton.1 hc
    have hname : NameText "array.0" := ⟨by decide, by decide⟩
    exact hname
  | primitive | literal | reference | record => intro c hc; cases hc

theorem nameText_chain {t : TypeTree} (h : ∀ x ∈ t.places, x.type.Wordy) :
    ∀ x ∈ t.places, ∀ m ∈ x.chain, NameText m := by
  induction t using induction_children with
  | step t ih =>
    obtain ⟨htop, hbelow⟩ := forall_mem_places.1 h
    refine forall_mem_places.2 ⟨fun m hm => (by cases hm), fun i c hc y hy => ?_⟩
    have hmem := List.mem_of_getElem? hc
    refine List.forall_mem_cons.2 ⟨nameText_of_mem_children htop c hmem, ?_⟩
    exact ih c hmem (hbelow i c hc) y hy

theorem chars_dotted {names : List String} (h : ∀ m ∈ names, NameText m) :
    (dotted names).toList.all isNameChar = true := by
  induction names with
  | nil => rfl
  | cons m rest ih =>
    obtain ⟨hm, hr⟩ := List.forall_mem_cons.1 h
    rw [dotted, String.toList_append, String.toList_append, List.all_append, List.all_append, hm.chars, ih hr]
    rfl

theorem nameText_joinNames {names : List String} (hne : names ≠ []) (h : ∀ m ∈ names, NameText m) :
    NameText (joinNames names) := by
  cases names with
  | nil => exact absurd rfl hne
  | cons m rest =>
    obtain ⟨hm, hr⟩ := List.forall_mem_cons.1 h
    rw [joinNames_cons]
    exact hm.append (chars_dotted hr)

/-! ## Texts on one line -/

theorem oneLine_append {a b : String} : OneLine (a ++ b) ↔ OneLine a ∧ OneLine b := by
  simp [OneLine]

theorem NameText.oneLine {s : String} (h : NameText s) : OneLine s := h.not_mem (by decide)

theorem oneLine_of_isDigit {cs : List Char} (h : ∀ c ∈ cs, c.isDigit = true) : OneLine (String.ofList cs) := by
  intro hm
  rw [String.toList_ofList] at hm
  exact absurd (h _ hm) (by decide)

theorem oneLine_toString (i : Nat) : OneLine (toString i) := by
  rw [← String.ofList_toList (s := toString i)]
  exact oneLine_of_isDigit fun _ => isDigit_of_mem_toString

theorem oneLine_toString_int (n : Int) : OneLine (toString n) := by
  cases n with
  | ofNat m => exact oneLine_toString m
  | negSucc m => exact oneLine_append.2 ⟨by decide, oneLine_toString (m + 1)⟩

theorem oneLine_zeros (n : Nat) : OneLine (Decimal.Layout.zeros n) := by
  refine oneLine_of_isDigit fun c hc => ?_
  rw [List.eq_of_mem_replicate hc]
  decide

theorem oneLine_exponentText (place : Int) : OneLine (Json.realLayout.exponentText place) := by
  have hsign : OneLine (if place < 0 then Json.realLayout.minus else Json.realLayout.plus) := by
    split <;> decide
  unfold Decimal.Layout.exponentText
  simp only [oneLine_append]
  exact ⟨⟨⟨by decide, hsign⟩, oneLine_zeros _⟩, oneLine_toString _⟩

theorem oneLine_positive {digits : List Char} (h : ∀ c ∈ digits, c.isDigit = true) (place : Int) :
    OneLine (Json.realLayout.positive digits place) := by
  unfold Decimal.Layout.positive
  dsimp only
  split
  · split
    · simp only [oneLine_append]
      exact ⟨⟨by decide, oneLine_zeros _⟩, oneLine_of_isDigit h⟩
    · split
      · simp only [oneLine_append]
        exact ⟨⟨oneLine_of_isDigit h, oneLine_zeros _⟩, by decide⟩
      · simp only [oneLine_append]
        refine ⟨⟨?_, by decide⟩, ?_⟩
        · exact oneLine_of_isDigit fun c hc => h c (List.mem_of_mem_take hc)
        · exact oneLine_of_isDigit fun c hc => h c (List.mem_of_mem_drop hc)
  · split
    · simp only [oneLine_append]
      exact ⟨oneLine_of_isDigit h, oneLine_exponentText _⟩
    · obtain ⟨hd, hr⟩ := List.forall_mem_cons.1 h
      have hfirst := oneLine_of_isDigit (List.forall_mem_singleton.2 hd)
      simp only [oneLine_append]
      exact ⟨⟨⟨hfirst, by decide⟩, oneLine_of_isDigit hr⟩, oneLine_exponentText _⟩
    · exact oneLine_of_isDigit h

theorem oneLine_write (x : Double) : OneLine (Json.realLayout.write x) := by
  have hsign : ∀ negative : Bool, OneLine (if negative then Json.realLayout.minus else "") := by decide
  cases x with
  | nan =>
    have : OneLine "nan" := by decide
    exact this
  | infinite negative => exact oneLine_append.2 ⟨hsign negative, by decide⟩
  | finite negative m p =>
    unfold Decimal.Layout.write
    dsimp only
    split
    · simp only [oneLine_append]
      exact ⟨⟨hsign negative, by decide⟩, by decide⟩
    · refine oneLine_append.2 ⟨hsign negative, oneLine_positive (fun c hc => ?_) _⟩
      exact Nat.isDigit_of_mem_toDigits (by decide) (by decide) hc

theorem oneLine_text {value : Literal} (h : (literal value).Wordy) : OneLine value.text := by
  cases value with
  | bool b => cases b <;> decide
  | int n => exact oneLine_toString_int n
  | real x =>
    rw [Literal.text]
    split
    · exact oneLine_toString_int _
    · exact oneLine_write x
  | str s => exact h

/-- What is shown at a place is on one line. -/
theorem oneLine_label {name : String} (hn : OneLine name) {t : TypeTree} (h : t.Wordy) : OneLine (t.label name) := by
  cases t with
  | primitive kind =>
    have hkind : OneLine kind.name := by cases kind <;> decide
    simp only [label, oneLine_append]
    exact ⟨⟨hn, by decide⟩, hkind⟩
  | literal value =>
    simp only [label, oneLine_append]
    exact ⟨⟨⟨hn, by decide⟩, oneLine_text h⟩, by decide⟩
  | reference table =>
    simp only [label, oneLine_append]
    exact ⟨⟨⟨hn, by decide⟩, (nameText_of_isWord h).oneLine⟩, by decide⟩
  | object | union | array | record => exact hn

end Diagram

end SchemaChart
