/-
All defects of a validator. They are listed depth-first and from left to right (`defects`): a type that names no form
stands alone; else the members that are missing come first, then those of a wrong kind, then the defects inside. A
reader stops at the first of them (`fault?_readType`).
-/
import SchemaChart.Proofs.Denoted

namespace SchemaChart.Validator

/-! ## Defects -/

/-- The members that a validator of a form must have, in the order in which they are asked for. -/
def Form.members : Form → List String
  | .primitive _ => []
  | .reference => ["tableName"]
  | .record => ["keys", "values"]
  | .literal | .array | .object | .union => ["value"]

/-- The defects of a validator of a form that lacks members. -/
def missing (type : String) (v : Json) (form : Form) : List Error :=
  (form.members.filter fun key => (v.get? key).isNone).map fun key => .fault (.missingKey type key)

/-- What is wrong with the value of a member, whatever is inside it. -/
def misfit? : Form → Json → Option Error
  | .literal, x => (fault? (readLiteral x)).map .fault
  | .reference, .str _ => none
  | .reference, _ => some refusedReference
  | .object, .obj _ => none
  | .object, x => some (.fault (.fieldsNotObject x))
  | .union, .arr _ => none
  | .union, x => some (.fault (.membersNotList x))
  | .primitive _, _ => none
  | .array, _ => none
  | .record, _ => none

/-- The defects of a validator of a form that has members of a wrong kind. -/
def misfits (v : Json) (form : Form) : List Error := (form.members.filterMap v.get?).filterMap (misfit? form)

/-- All defects of a validator. -/
def defects (v : Json) : List Error :=
  match formOf v with
  | .error f => [.fault f]
  | .ok (type, form) =>
    missing type v form ++ misfits v form ++ (parts v form).attach.flatMap fun
      | ⟨.error f, _⟩ => [.fault f]
      | ⟨.ok x, hx⟩ =>
        have := sizeOf_lt_of_mem_parts hx
        defects x
termination_by sizeOf v

/-- The defects of a part. -/
def partDefects : Except Fault Json → List Error
  | .error f => [.fault f]
  | .ok x => defects x

theorem defects_eq (v : Json) : defects v =
    match formOf v with
    | .error f => [.fault f]
    | .ok (type, form) => missing type v form ++ misfits v form ++ (parts v form).flatMap partDefects := by
  rw [defects]
  rcases formOf v with f | ⟨type, form⟩
  · rfl
  · -- the membership that the recursion carries along is forgotten
    have hparts : ∀ p : { p // p ∈ parts v form }, (match p with
        | ⟨.error f, _⟩ => [.fault f]
        | ⟨.ok x, _⟩ => defects x) = partDefects p.1 := by
      rintro ⟨f | x, hp⟩ <;> rfl
    simp only [hparts, List.flatMap_subtype, List.unattach_attach]

/-! ## The first defect -/

/-- A validator whose first defect stops its reader. -/
def StopsAtFirst (v : Json) : Prop := fault? (readType v) = (defects v).head?

theorem fault?_readField {name : String} {entry : Json}
    (h : ∀ x, fieldPart name entry = .ok x → StopsAtFirst x) :
    fault? (readField name entry) = (partDefects (fieldPart name entry)).head? := by
  rw [readField_eq]
  rcases hx : entry.get? "fieldType" with _ | x
  · rw [fieldPart, hx]; rfl
  · have hpart : fieldPart name entry = .ok x := fieldPart_eq_ok_iff.2 hx
    rw [hpart, fault?_map]
    exact h x hpart

theorem fault?_readFields (entries : List (String × Json))
    (h : ∀ p ∈ entries, ∀ x, fieldPart p.1 p.2 = .ok x → StopsAtFirst x) :
    fault? (readFields entries) = ((entries.map fun p => fieldPart p.1 p.2).flatMap partDefects).head? := by
  rw [readFields_eq, List.flatMap_map]
  exact fault?_mapM_eq_head? fun p hp => fault?_readField (h p hp)

theorem fault?_readMembers (items : List Json) (h : ∀ x ∈ items, StopsAtFirst x) :
    fault? (readMembers items) = ((items.map .ok).flatMap partDefects).head? := by
  rw [readMembers_eq, List.flatMap_map]
  exact fault?_mapM_eq_head? h

/-- A reader that needs a member stops at its absence. -/
theorem fault?_required {α : Type} (type key : String) (v : Json) (read : Json → Except Error α) :
    fault? (required type key v read) =
      match v.get? key with
      | none => some (.fault (.missingKey type key))
      | some x => fault? (read x) := by
  unfold required
  cases v.get? key <;> rfl

/-- A reader of a validator stops at the first defect if the readers of the validators inside it do. -/
theorem fault?_readForm {type : String} {v : Json} {form : Form} (h : ∀ x, .ok x ∈ parts v form → StopsAtFirst x) :
    fault? (readForm type v form) =
      (missing type v form ++ misfits v form ++ (parts v form).flatMap partDefects).head? := by
  unfold missing misfits
  cases form with
  | primitive kind => rfl
  | literal =>
    rw [readForm, fault?_required]
    rcases hx : v.get? "value" with _ | x
    · simp [Form.members, hx]
    · simp only [fault?_map, fault?_mapError]
      rcases hl : fault? (readLiteral x) with _ | e <;> simp [Form.members, hx, hl, misfit?, parts]
  | reference =>
    rw [readForm, fault?_required]
    rcases hx : v.get? "tableName" with _ | x
    · simp [Form.members, hx]
    · cases x with
      | str => simp [Form.members, hx, readTable, misfit?, parts, fault?]
      | null | bool | int | real | arr | obj => simp [Form.members, hx, readTable, misfit?, parts, fault?]
  | array =>
    rw [readForm, fault?_required]
    rcases hx : v.get? "value" with _ | x
    · simp [Form.members, hx]
    · have hstops : StopsAtFirst x := h x (by simp [parts, hx])
      simp only [fault?_map]
      rw [hstops]
      simp [Form.members, hx, misfit?, parts, partDefects]
  | object =>
    rw [readForm, fault?_required]
    rcases hx : v.get? "value" with _ | x
    · simp [Form.members, hx]
    · simp only [fault?_map]
      cases x with
      | obj entries =>
        have hfields := fault?_readFields entries fun p hp y hy =>
          h y (by simp only [parts, hx]; exact List.mem_map.2 ⟨p, hp, hy⟩)
        rw [readFieldObject, hfields]
        simp [Form.members, hx, misfit?, parts]
      | null | bool | int | real | str | arr => simp [Form.members, hx, readFieldObject, misfit?, fault?]
  | union =>
    rw [readForm, fault?_required]
    rcases hx : v.get? "value" with _ | x
    · simp [Form.members, hx]
    · simp only [fault?_map]
      cases x with
      | arr items =>
        have hmembers := fault?_readMembers items fun y hy =>
          h y (by simp only [parts, hx]; exact List.mem_map_of_mem hy)
        rw [readMemberList, hmembers]
        simp [Form.members, hx, misfit?, parts]
      | null | bool | int | real | str | obj => simp [Form.members, hx, readMemberList, misfit?, fault?]
  | record =>
    rw [readForm, fault?_required]
    rcases hk : v.get? "keys" with _ | k
    · simp [Form.members, hk]
    · simp only [fault?_required]
      rcases hw : v.get? "values" with _ | w
      · simp [Form.members, hk, hw]
      · have hkey : StopsAtFirst k := h k (by simp [parts, hk])
        have hvalue : StopsAtFirst (unwrapped w) := h _ (by simp [parts, hw])
        simp only [fault?_both]
        rw [hkey, hvalue]
        simp [Form.members, hk, hw, List.findSome?, misfit?, parts, partDefects]

/-- The reader of a validator stops at the first of its defects. -/
theorem fault?_readType (v : Json) : fault? (readType v) = (defects v).head? := by
  refine induction_parts (P := StopsAtFirst) (fun v ih => ?_) v
  unfold StopsAtFirst
  rw [readType_eq, defects_eq]
  rcases formOf v with f | ⟨type, form⟩
  · rfl
  · exact fault?_readForm (ih form)

end SchemaChart.Validator
