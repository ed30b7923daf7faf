/-
Reading validators by their forms. The type of a validator names its form (`formOf`), and a validator is read by the
form alone (`readType_eq`): first the members that it must have, then what is inside them (`parts`). What is inside is
smaller, so what a validator has when all validators inside it have it, every validator has (`induction_parts`).
-/
import SchemaChart.Proofs.Faults
import SchemaChart.Validator.Reader

namespace SchemaChart

/-! ## Members of values -/

theorem Json.get?_eq_some_iff {v x : Json} {name : String} :
    v.get? name = some x ↔ ∃ members, v = .obj members ∧ members.lookup name = some x := by
  cases v with
  | obj members => simp [Json.get?]
  | null | bool | int | real | str | arr => simp [Json.get?]

/-- A member is smaller than the object that it is in. -/
theorem Json.sizeOf_lt_of_get? {v x : Json} {name : String} (h : v.get? name = some x) : sizeOf x < sizeOf v := by
  obtain ⟨members, rfl, hlookup⟩ := Json.get?_eq_some_iff.1 h
  obtain ⟨before, after, rfl, -⟩ := List.lookup_eq_some_iff.1 hlookup
  have hmem : sizeOf (name, x) < sizeOf (before ++ (name, x) :: after) :=
    List.sizeOf_lt_of_mem (List.mem_append_right _ (List.mem_cons_self ..))
  simp only [Prod.mk.sizeOf_spec, Json.obj.sizeOf_spec] at hmem ⊢
  omega

namespace Validator

/-! ## Forms -/

/-- The names under which a primitive is written. -/
def spellings : Primitive → List String
  | .number => ["number", "float64"]
  | .bigint => ["bigint", "int64"]
  | kind => [kind.name]

/-- The names of a form. -/
def Form.names : Form → List String
  | .primitive kind => spellings kind
  | .literal => ["literal"]
  | .reference => ["id"]
  | .array => ["array"]
  | .object => ["object"]
  | .union => ["union"]
  | .record => ["record"]

theorem name_mem_spellings (kind : Primitive) : kind.name ∈ spellings kind := by
  cases kind <;> decide

theorem Form.ofName?_of_mem_names (form : Form) : ∀ name ∈ form.names, ofName? name = some form := by
  cases form with
  | primitive kind => cases kind <;> decide
  | literal | reference | array | object | union | record => decide

/-- A form has its own names and no other form has one of them. -/
theorem Form.ofName?_eq_some_iff {name : String} {form : Form} : ofName? name = some form ↔ name ∈ form.names := by
  refine ⟨fun h => ?_, ofName?_of_mem_names form name⟩
  rw [ofName?] at h
  rcases hkind : Primitive.ofName? name with _ | kind
  · rw [hkind] at h
    obtain ⟨before, after, hsplit, -⟩ := List.lookup_eq_some_iff.1 h
    have hmem : (name, form) ∈ before ++ (name, form) :: after := List.mem_append_right _ (List.mem_cons_self ..)
    rw [← hsplit] at hmem
    simp only [List.mem_cons, Prod.mk.injEq, List.not_mem_nil, or_false] at hmem
    rcases hmem with ⟨rfl, rfl⟩ | ⟨rfl, rfl⟩ | ⟨rfl, rfl⟩ | ⟨rfl, rfl⟩ | ⟨rfl, rfl⟩ | ⟨rfl, rfl⟩ | ⟨rfl, rfl⟩ |
      ⟨rfl, rfl⟩ <;> decide
  · rw [hkind] at h
    cases h
    have hname := List.find?_some hkind
    simp only [beq_iff_eq] at hname
    rw [← hname]
    exact name_mem_spellings kind

/-- The name and the form that the type of a validator gives. -/
def formOf (v : Json) : Except Fault (String × Form) :=
  match v.get? "type" with
  | none => .error (.untyped v)
  | some (.str type) =>
    match Form.ofName? type with
    | none => .error (.unknownType type)
    | some form => .ok (type, form)
  | some x => .error (.typeNotText x)

theorem formOf_eq_ok_iff {v : Json} {type : String} {form : Form} :
    formOf v = .ok (type, form) ↔ v.get? "type" = some (.str type) ∧ type ∈ form.names := by
  rw [← Form.ofName?_eq_some_iff, formOf]
  rcases v.get? "type" with _ | x
  · simp
  · cases x with
    | str name =>
      rcases hname : Form.ofName? name with _ | f
      · simp only [hname, reduceCtorEq, false_iff]
        rintro ⟨⟨⟩, h⟩
        rw [hname] at h; cases h
      · simp only [hname]
        constructor
        · intro h; cases h
          exact ⟨rfl, hname⟩
        · rintro ⟨⟨⟩, h⟩
          rw [hname] at h; cases h
          rfl
    | null | bool | int | real | arr | obj => simp

/-! ## Reading by form -/

/-- Reads on with the member that a validator must have. -/
def required {α : Type} (type key : String) (v : Json) (read : Json → Except Error α) : Except Error α :=
  match v.get? key with
  | none => .error (.fault (.missingKey type key))
  | some x => read x

theorem required_eq {α : Type} {type key : String} {v x : Json} (h : v.get? key = some x)
    (read : Json → Except Error α) : required type key v read = read x := by
  rw [required, h]

theorem required_eq_ok_iff {α : Type} {type key : String} {v : Json} {read : Json → Except Error α} {a : α} :
    required type key v read = .ok a ↔ ∃ x, v.get? key = some x ∧ read x = .ok a := by
  rw [required]
  cases v.get? key <;> simp

/-- The table that a reference holds. -/
def readTable : Json → Except Error TypeTree
  | .str table => .ok (.reference table)
  | _ => .error refusedReference

/-- The type that a validator of a form denotes. -/
def readForm (type : String) (v : Json) : Form → Except Error TypeTree
  | .primitive kind => .ok (.primitive kind)
  | .literal => required type "value" v fun x => ((readLiteral x).mapError .fault).map .literal
  | .reference => required type "tableName" v readTable
  | .array => required type "value" v fun x => (readType x).map .array
  | .object => required type "value" v fun x => (readFieldObject x).map .object
  | .union => required type "value" v fun x => (readMemberList x).map .union
  | .record =>
    required type "keys" v fun k => required type "values" v fun w => do
      let key ← readType k
      let value ← readType (unwrapped w)
      pure (.record key value)

/-- A validator is read by the form that its type names. -/
theorem readType_eq_readForm {v : Json} {type : String} (form : Form) (htype : v.get? "type" = some (.str type))
    (hform : Form.ofName? type = some form) : readType v = readForm type v form := by
  obtain ⟨members, rfl, hlookup⟩ := Json.get?_eq_some_iff.1 htype
  rw [readType, hlookup]
  -- what the search along the members meets is what a look-up finds
  cases form with
  | primitive kind => simp only [hform, readForm]
  | literal =>
    simp only [hform, readForm, required, Json.get?]
    rcases members.lookup "value" with _ | x
    · rfl
    · dsimp only
      rcases readLiteral x with e | l <;> rfl
  | reference =>
    simp only [hform, readForm, required, Json.get?]
    rcases members.lookup "tableName" with _ | x
    · rfl
    · cases x <;> rfl
  | array =>
    simp only [hform, readForm, required, Json.get?, readAt_eq]
    rcases members.lookup "value" with _ | x <;> rfl
  | object =>
    simp only [hform, readForm, required, Json.get?, readFieldsAt_eq]
    rcases members.lookup "value" with _ | x <;> rfl
  | union =>
    simp only [hform, readForm, required, Json.get?, readMembersAt_eq]
    rcases members.lookup "value" with _ | x <;> rfl
  | record =>
    simp only [hform, readForm, required, Json.get?, readAt_eq, readWrappedAt_eq]
    rcases members.lookup "keys" with _ | k
    · rfl
    · rcases members.lookup "values" with _ | w <;> rfl

/-- Nothing is read of a validator whose type names no form. -/
theorem readType_eq (v : Json) : readType v =
    match formOf v with
    | .error f => .error (.fault f)
    | .ok (type, form) => readForm type v form := by
  cases v with
  | obj members =>
    rcases hlookup : members.lookup "type" with _ | x
    · rw [readType, hlookup, formOf, Json.get?, hlookup]
    · cases x with
      | str type =>
        rcases hform : Form.ofName? type with _ | form
        · rw [readType, hlookup, formOf, Json.get?, hlookup]
          simp only [hform]
        · rw [readType_eq_readForm (v := .obj members) form hlookup hform, formOf, Json.get?, hlookup]
          simp only [hform]
      | null | bool | int | real | arr | obj => rw [readType, hlookup, formOf, Json.get?, hlookup]
  | null | bool | int | real | str | arr => rw [readType] <;> simp [formOf, Json.get?]

theorem readFields_eq : ∀ entries : List (String × Json), readFields entries = entries.mapM fun p => readField p.1 p.2
  | [] => by rw [readFields]; rfl
  | (name, entry) :: rest => by rw [readFields, readFields_eq rest, List.mapM_cons]

theorem readMembers_eq : ∀ items : List Json, readMembers items = items.mapM readType
  | [] => by rw [readMembers]; rfl
  | v :: rest => by rw [readMembers, readMembers_eq rest, List.mapM_cons]

/-- Whether an entry says that its field may be left out. -/
def saysOptional (entry : Json) : Bool := ((entry.get? "optional").map Json.isTruthy).getD false

theorem readField_eq (name : String) (entry : Json) : readField name entry =
    match entry.get? "fieldType" with
    | none => .error (.fault (.fieldWithoutType name))
    | some x => (readType x).map fun type => ⟨name, saysOptional entry, type⟩ := by
  cases entry with
  | obj members =>
    have hoptional : isOptional members = saysOptional (.obj members) := by
      rw [isOptional, saysOptional, Json.get?]
      cases members.lookup "optional" <;> rfl
    rw [readField, readAt_eq, Json.get?, hoptional]
    cases members.lookup "fieldType" <;> rfl
  | null | bool | int | real | str | arr => rw [readField] <;> simp [Json.get?]

/-! ## Parts -/

/-- The validator in the entry of a field. -/
def fieldPart (name : String) (entry : Json) : Except Fault Json :=
  match entry.get? "fieldType" with
  | some x => .ok x
  | none => .error (.fieldWithoutType name)

/-- The validators inside a validator of a form, in order. A field without one gives a fault in its place. -/
def parts (v : Json) : Form → List (Except Fault Json)
  | .primitive _ | .literal | .reference => []
  | .array => (v.get? "value").toList.map .ok
  | .object =>
    match v.get? "value" with
    | some (.obj entries) => entries.map fun p => fieldPart p.1 p.2
    | _ => []
  | .union =>
    match v.get? "value" with
    | some (.arr items) => items.map .ok
    | _ => []
  | .record => (v.get? "keys").toList.map .ok ++ (v.get? "values").toList.map fun w => .ok (unwrapped w)

theorem fieldPart_eq_ok_iff {name : String} {entry x : Json} :
    fieldPart name entry = .ok x ↔ entry.get? "fieldType" = some x := by
  unfold fieldPart
  rcases entry.get? "fieldType" with _ | y <;> simp

theorem sizeOf_unwrapped_le (w : Json) : sizeOf (unwrapped w) ≤ sizeOf w := by
  unfold unwrapped
  rcases hx : w.get? "fieldType" with _ | x
  · exact Nat.le_refl _
  · exact Nat.le_of_lt (Json.sizeOf_lt_of_get? hx)

theorem sizeOf_lt_of_mem_parts {v x : Json} {form : Form} (h : .ok x ∈ parts v form) : sizeOf x < sizeOf v := by
  cases form with
  | primitive | literal | reference => cases h
  | array =>
    simp only [parts, List.mem_map, Option.mem_toList, Except.ok.injEq, exists_eq_right] at h
    exact Json.sizeOf_lt_of_get? h
  | object =>
    simp only [parts] at h
    split at h
    · rename_i entries hvalue
      obtain ⟨p, hp, hx⟩ := List.mem_map.1 h
      have hentry := Json.sizeOf_lt_of_get? (fieldPart_eq_ok_iff.1 hx)
      have hentries := Json.sizeOf_lt_of_get? hvalue
      have hmem := List.sizeOf_lt_of_mem hp
      obtain ⟨name, entry⟩ := p
      simp only [Prod.mk.sizeOf_spec, Json.obj.sizeOf_spec] at hentry hmem hentries
      omega
    · cases h
  | union =>
    simp only [parts] at h
    split at h
    · rename_i items hvalue
      simp only [List.mem_map, Except.ok.injEq, exists_eq_right] at h
      have hitems := Json.sizeOf_lt_of_get? hvalue
      have hmem := List.sizeOf_lt_of_mem h
      simp only [Json.arr.sizeOf_spec] at hitems
      omega
    · cases h
  | record =>
    simp only [parts, List.mem_append, List.mem_map, Option.mem_toList, Except.ok.injEq, exists_eq_right] at h
    rcases h with h | ⟨w, hw, rfl⟩
    · exact Json.sizeOf_lt_of_get? h
    · exact Nat.lt_of_le_of_lt (sizeOf_unwrapped_le w) (Json.sizeOf_lt_of_get? hw)

/-- What a validator has when the validators inside it have it, all validators have. -/
theorem induction_parts {P : Json → Prop} (step : ∀ v, (∀ form x, .ok x ∈ parts v form → P x) → P v) (v : Json) :
    P v :=
  step v fun _ x _ => induction_parts step x
termination_by sizeOf v
decreasing_by exact sizeOf_lt_of_mem_parts ‹_›

end Validator

end SchemaChart
