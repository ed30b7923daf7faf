/-
The kinds of failure that a schema in JSON can give. What is malformed is reported as such, and what cannot be drawn as
one of three errors of the diagram; the exception are members of a wrong kind that a part refuses when it is put
together: the name or the validator of a table, and the table of a reference. A flowchart or a failure of the first two
kinds comes out exactly when no such refusal is the first defect (`chartOf_kinds_iff`).
-/
import SchemaChart.Proofs.Diagnosis

namespace SchemaChart

/-! ## Kinds of failures -/

namespace Failure

/-- The failures of a malformed schema: the way it is declared, or one of its validators. -/
inductive Malformed : Failure → Prop
  | declaration (fault : Declaration.Fault) : Malformed (.declaration fault)
  | validator (fault : Validator.Fault) : Malformed (.validator fault)

/-- The failures of a schema that cannot be drawn. -/
inductive Undrawable : Failure → Prop
  | unsupportedField (path kind : String) : Undrawable (.diagram (.unsupportedField path kind))
  | unsupportedRoot (table kind : String) : Undrawable (.diagram (.unsupportedRoot table kind))
  | duplicateTable (name : String) : Undrawable (.diagram (.duplicateTable name))

end Failure

/-! ## Refusals -/

namespace Validator

/-- A validator with a reference in it, at any depth, whose table is no text. -/
inductive HoldsBadReference : Json → Prop
  | here {v x : Json} {type : String} : formOf v = .ok (type, .reference) → v.get? "tableName" = some x →
      (∀ s, x ≠ .str s) → HoldsBadReference v
  | inside {v x : Json} {type : String} {form : Form} : formOf v = .ok (type, form) → .ok x ∈ parts v form →
      HoldsBadReference x → HoldsBadReference v

theorem not_refused_mem_missing {type : String} {v : Json} {form : Form} {r : Refusal} :
    .refused r ∉ missing type v form := by
  intro h
  obtain ⟨key, -, hkey⟩ := List.mem_map.1 h
  cases hkey

theorem misfit?_eq_refused_iff {form : Form} {x : Json} :
    (∃ r, misfit? form x = some (.refused r)) ↔ form = .reference ∧ ∀ s, x ≠ .str s := by
  constructor
  · rintro ⟨r, h⟩
    cases form with
    | literal =>
      obtain ⟨f, -, hf⟩ := Option.map_eq_some_iff.1 h
      cases hf
    | reference =>
      refine ⟨rfl, ?_⟩
      rintro s rfl
      cases h
    | object => cases x <;> cases h
    | union => cases x <;> cases h
    | primitive | array | record => cases h
  · rintro ⟨rfl, hx⟩
    cases x with
    | str s => exact absurd rfl (hx s)
    | null | bool | int | real | arr | obj => exact ⟨_, rfl⟩

theorem refused_mem_misfits_iff {v : Json} {form : Form} : (∃ r, .refused r ∈ misfits v form) ↔
    form = .reference ∧ ∃ x, v.get? "tableName" = some x ∧ ∀ s, x ≠ .str s := by
  unfold misfits
  constructor
  · rintro ⟨r, h⟩
    obtain ⟨x, hx, hr⟩ := List.mem_filterMap.1 h
    obtain ⟨rfl, hstr⟩ := misfit?_eq_refused_iff.1 ⟨r, hr⟩
    obtain ⟨key, hkey, hget⟩ := List.mem_filterMap.1 hx
    obtain rfl := List.mem_singleton.1 hkey
    exact ⟨rfl, x, hget, hstr⟩
  · rintro ⟨rfl, x, hget, hstr⟩
    obtain ⟨r, hr⟩ := misfit?_eq_refused_iff.2 ⟨rfl, hstr⟩
    exact ⟨r, List.mem_filterMap.2 ⟨x, List.mem_filterMap.2 ⟨"tableName", by decide, hget⟩, hr⟩⟩

/-- Of a validator nothing is refused but references whose table is no text. -/
theorem refused_mem_defects_iff (v : Json) : (∃ r, .refused r ∈ defects v) ↔ HoldsBadReference v := by
  refine induction_parts (P := fun v => (∃ r, .refused r ∈ defects v) ↔ HoldsBadReference v) (fun v ih => ?_) v
  rw [defects_eq]
  constructor
  · rintro ⟨r, h⟩
    rcases hform : formOf v with f | ⟨type, form⟩
    · rw [hform] at h
      cases List.mem_singleton.1 h
    · rw [hform] at h
      rcases List.mem_append.1 h with h | h
      · rcases List.mem_append.1 h with h | h
        · exact absurd h not_refused_mem_missing
        · obtain ⟨rfl, x, hget, hstr⟩ := refused_mem_misfits_iff.1 ⟨r, h⟩
          exact .here hform hget hstr
      · obtain ⟨f | x, hpart, hr⟩ := List.mem_flatMap.1 h
        · cases List.mem_singleton.1 hr
        · exact .inside hform hpart ((ih form x hpart).1 ⟨r, hr⟩)
  · rintro (⟨hform, hget, hstr⟩ | ⟨hform, hpart, hx⟩)
    · rw [hform]
      obtain ⟨r, hr⟩ := refused_mem_misfits_iff.2 ⟨rfl, _, hget, hstr⟩
      exact ⟨r, List.mem_append_left _ (List.mem_append_right _ hr)⟩
    · rw [hform]
      obtain ⟨r, hr⟩ := (ih _ _ hpart).2 hx
      exact ⟨r, List.mem_append_right _ (List.mem_flatMap.2 ⟨_, hpart, hr⟩)⟩

end Validator

namespace Declaration

/-- An entry with a name that is no text, or with a validator that is no object. -/
inductive Entry.BadMember : Entry → Prop
  | listed {entry name validator : Json} : entry.get? "tableName" = some name →
      entry.get? "documentType" = some validator → ((∀ s, name ≠ .str s) ∨ ∀ members, validator ≠ .obj members) →
        BadMember (.listed entry)
  | named {name : String} {validator : Json} : (∀ members, validator ≠ .obj members) →
      BadMember (.named name validator)

theorem objection?_eq_none_iff {name validator : Json} :
    objection? name validator = none ↔ (∃ s, name = .str s) ∧ ∃ members, validator = .obj members := by
  unfold objection?
  cases name with
  | str s => cases validator <;> simp [nameObjections, validatorObjections]
  | null | bool | int | real | arr | obj => simp [nameObjections]

theorem objection?_eq_refused_iff {name validator : Json} : (∃ r, objection? name validator = some (.refused r)) ↔
    (∀ s, name ≠ .str s) ∨ ∀ members, validator ≠ .obj members := by
  have hrefused : (∃ r, objection? name validator = some (.refused r)) ↔ objection? name validator ≠ none := by
    unfold objection?
    split_ifs <;> simp
  rw [hrefused, ne_eq, objection?_eq_none_iff, not_and_or]
  push Not
  exact Iff.rfl

theorem Entry.defect?_eq_refused_iff {e : Entry} : (∃ r, e.defect? = some (.refused r)) ↔ e.BadMember := by
  constructor
  · rintro ⟨r, h⟩
    cases e with
    | listed entry =>
      rw [defect?] at h
      rcases hname : entry.get? "tableName" with _ | name
      · rw [hname] at h; cases h
      · rcases hvalidator : entry.get? "documentType" with _ | validator
        · rw [hname, hvalidator] at h; cases h
        · rw [hname, hvalidator] at h
          exact .listed hname hvalidator (objection?_eq_refused_iff.1 ⟨r, h⟩)
    | named name validator =>
      rcases objection?_eq_refused_iff.1 ⟨r, h⟩ with hname | hvalidator
      · exact absurd rfl (hname name)
      · exact .named hvalidator
  · rintro (⟨hname, hvalidator, hbad⟩ | hbad)
    · rw [defect?, hname, hvalidator]
      exact objection?_eq_refused_iff.2 hbad
    · exact objection?_eq_refused_iff.2 (.inr hbad)

end Declaration

/-! ## Schemas -/

namespace Diagram

theorem undrawable_of_mem_faults {ts : List Table} {e : Error} : ∀ {earlier : List String},
    e ∈ faults earlier ts → Failure.Undrawable (.diagram e) := by
  induction ts with
  | nil => intro earlier h; cases h
  | cons t rest ih =>
    intro earlier h
    rcases List.mem_append.1 h with h | h
    · rcases List.mem_append.1 h with h | h
      · rcases List.mem_append.1 h with h | h
        · split_ifs at h
          · obtain rfl := List.mem_singleton.1 h
            exact .duplicateTable _
          · cases h
        · unfold rootFaults at h
          split_ifs at h
          · cases h
          · obtain rfl := List.mem_singleton.1 h
            exact .unsupportedRoot _ _
      · obtain ⟨x, -, rfl⟩ := List.mem_map.1 h
        exact .unsupportedField _ _
    · exact ih h

end Diagram

namespace Schema

open Declaration

theorem kind_of_mem_malformed {v : Json} {f : Failure} (h : f ∈ malformed v) :
    f.Malformed ∨ ∃ r, f = .refused r := by
  rcases List.mem_append.1 h with h | h
  · obtain ⟨e, -, rfl⟩ := List.mem_map.1 h
    cases e with
    | fault fault => exact .inl (.declaration fault)
    | refused r => exact .inr ⟨r, rfl⟩
  · obtain ⟨e, -, rfl⟩ := List.mem_map.1 h
    cases e with
    | fault fault => exact .inl (.validator fault)
    | refused r => exact .inr ⟨r, rfl⟩

theorem kind_of_mem_undrawable {v : Json} {f : Failure} (h : f ∈ undrawable v) : f.Undrawable := by
  obtain ⟨e, he, rfl⟩ := List.mem_map.1 h
  exact Diagram.undrawable_of_mem_faults he

/-- A refusal among what is malformed comes from a table that is declared with a name or a validator of a wrong kind,
or from a reference with a table of a wrong kind in a validator. -/
theorem refused_mem_malformed_iff {v : Json} : (∃ r, .refused r ∈ malformed v) ↔
    (∃ entries, entries? v = some entries ∧ ∃ e ∈ entries, e.BadMember) ∨
      ∃ d ∈ readable v, Validator.HoldsBadReference (.obj d.validator) := by
  have hentries : (∃ r, .refused r ∈ (Declaration.defects v).map Failure.ofDeclaration) ↔
      ∃ entries, entries? v = some entries ∧ ∃ e ∈ entries, e.BadMember := by
    unfold Declaration.defects
    constructor
    · rintro ⟨r, h⟩
      obtain ⟨f | r, hf, hr⟩ := List.mem_map.1 h
      · cases hr
      · rcases hv : entries? v with _ | entries
        · rw [hv] at hf
          cases List.mem_singleton.1 hf
        · rw [hv] at hf
          obtain ⟨e, he, hdefect⟩ := List.mem_filterMap.1 hf
          exact ⟨entries, rfl, e, he, Entry.defect?_eq_refused_iff.1 ⟨r, hdefect⟩⟩
    · rintro ⟨entries, hv, e, he, hbad⟩
      obtain ⟨r, hr⟩ := Entry.defect?_eq_refused_iff.2 hbad
      rw [hv]
      exact ⟨r, List.mem_map.2 ⟨_, List.mem_filterMap.2 ⟨e, he, hr⟩, rfl⟩⟩
  have hvalidators : (∃ r, .refused r ∈ ((readable v).flatMap validatorDefects).map Failure.ofValidator) ↔
      ∃ d ∈ readable v, Validator.HoldsBadReference (.obj d.validator) := by
    constructor
    · rintro ⟨r, h⟩
      obtain ⟨f | r, hf, hr⟩ := List.mem_map.1 h
      · cases hr
      · obtain ⟨d, hd, hdefect⟩ := List.mem_flatMap.1 hf
        exact ⟨d, hd, (Validator.refused_mem_defects_iff _).1 ⟨r, hdefect⟩⟩
    · rintro ⟨d, hd, hbad⟩
      obtain ⟨r, hr⟩ := (Validator.refused_mem_defects_iff _).2 hbad
      exact ⟨r, List.mem_map.2 ⟨_, List.mem_flatMap.2 ⟨d, hd, hr⟩, rfl⟩⟩
  simp only [malformed, List.mem_append, exists_or, hentries, hvalidators]

/-- What comes out for a value is of one of three kinds: a failure that says so if something in it is malformed, and
else a flowchart or a failure of a schema that cannot be drawn. -/
def OfThreeKinds (v : Json) : Prop :=
  (malformed v ≠ [] → ∃ e, chartOf v = .error e ∧ e.Malformed) ∧
    (malformed v = [] → (∃ text, chartOf v = .ok text) ∨ ∃ e, chartOf v = .error e ∧ e.Undrawable)

theorem chartOf_of_head? {v : Json} {f : Failure} (h : (malformed v).head? = some f) : chartOf v = .error f := by
  rw [← fault?_eq_some_iff, fault?_chartOf, defects, List.head?_append, h]
  rfl

theorem chartOf_of_malformed_eq_nil {v : Json} (h : malformed v = []) :
    (∃ text, chartOf v = .ok text) ∨ ∃ e, chartOf v = .error e ∧ e.Undrawable := by
  rcases hv : chartOf v with f | text
  · refine .inr ⟨f, rfl, ?_⟩
    rw [← fault?_eq_some_iff, fault?_chartOf, defects, h, List.nil_append] at hv
    exact kind_of_mem_undrawable (List.mem_of_head? hv)
  · exact .inl ⟨text, rfl⟩

/-- What comes out for a value is of the three kinds exactly when the first thing in it that is malformed is not
refused. Refused are names of tables that are no texts, validators of tables that are no objects, and references, at
any depth of a validator, to tables that are no texts. -/
theorem chartOf_kinds_iff (v : Json) :
    (OfThreeKinds v ↔ ∀ r, (malformed v).head? ≠ some (.refused r)) ∧
      ((∃ r, .refused r ∈ malformed v) ↔ (∃ entries, entries? v = some entries ∧ ∃ e ∈ entries, e.BadMember) ∨
        ∃ d ∈ readable v, Validator.HoldsBadReference (.obj d.validator)) := by
  refine ⟨⟨?_, fun h => ⟨fun hne => ?_, chartOf_of_malformed_eq_nil⟩⟩, refused_mem_malformed_iff⟩
  · rintro ⟨hmalformed, -⟩ r hr
    have hne : malformed v ≠ [] := by
      intro hnil
      rw [hnil] at hr; cases hr
    obtain ⟨e, he, hkind⟩ := hmalformed hne
    rw [chartOf_of_head? hr] at he
    cases he; cases hkind
  · obtain ⟨f, hf⟩ := Option.ne_none_iff_exists'.1 (mt List.head?_eq_none_iff.1 hne)
    refine ⟨f, chartOf_of_head? hf, ?_⟩
    rcases kind_of_mem_malformed (List.mem_of_head? hf) with hkind | ⟨r, rfl⟩
    · exact hkind
    · exact absurd hf (h r)

/-- A reference to a table that is no text comes out as a refusal. -/
theorem chartOf_bad_reference :
    let v : Json := .obj [("t", .obj [("type", .str "object"), ("value", .obj [("a", .obj [("fieldType",
      .obj [("type", .str "id"), ("tableName", .int 5)])])])])]
    chartOf v = .error (.refused ⟨.reference, [Refusal.object .tableName .text]⟩) ∧ ¬ OfThreeKinds v := by
  intro v
  have hv : chartOf v = .error (.refused ⟨.reference, [Refusal.object .tableName .text]⟩) := rfl
  refine ⟨hv, ?_⟩
  rintro ⟨hmalformed, hdrawn⟩
  by_cases hnil : malformed v = []
  · rcases hdrawn hnil with ⟨text, ht⟩ | ⟨e, he, hkind⟩
    · rw [hv] at ht; cases ht
    · rw [hv] at he
      cases he; cases hkind
  · obtain ⟨e, he, hkind⟩ := hmalformed hnil
    rw [hv] at he
    cases he; cases hkind

end Schema

end SchemaChart
