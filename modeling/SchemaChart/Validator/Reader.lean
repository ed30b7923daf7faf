/-
Reading validators. A validator is an object whose `type` names a form; the form says which other
members count. All else in it is ignored. Defects are met in a fixed order: the type, then missing
members, then members of a wrong kind, then the parts inside, from the first to the last.

The functions follow the value itself, so a member is read where the search for its name meets it; the
lemmas at the end say that this is reading what the look-up finds (`readAt_eq` and those after it).
-/
import SchemaChart.Validator.Literal

namespace SchemaChart.Validator

/-- The forms of validators. -/
inductive Form where
  | primitive (kind : Primitive)
  | literal
  | reference
  | array
  | object
  | union
  | record
  deriving DecidableEq, Repr

/-- The form that a type names. Two primitives have a second name. -/
def Form.ofName? (type : String) : Option Form :=
  match Primitive.ofName? type with
  | some kind => some (.primitive kind)
  | none =>
    List.lookup type
      [("float64", .primitive .number), ("int64", .primitive .bigint), ("literal", .literal), ("id", .reference),
        ("array", .array), ("object", .object), ("union", .union), ("record", .record)]

/-- The refusal of a reference whose table is no text. -/
def refusedReference : Error := .refused ⟨.reference, [Refusal.object .tableName .text]⟩

/-- Whether a field entry says that the field may be left out. -/
def isOptional (entry : List (String × Json)) : Bool :=
  match entry.lookup "optional" with
  | some v => v.isTruthy
  | none => false

mutual

/-- The type that a validator denotes. -/
def readType : Json → Except Error TypeTree
  | .obj members =>
    match members.lookup "type" with
    | none => .error (.fault (.untyped (.obj members)))
    | some (.str type) =>
      match Form.ofName? type with
      | none => .error (.fault (.unknownType type))
      | some (.primitive kind) => .ok (.primitive kind)
      | some .literal =>
        match members.lookup "value" with
        | none => .error (.fault (.missingKey type "value"))
        | some v =>
          match readLiteral v with
          | .ok l => .ok (.literal l)
          | .error e => .error (.fault e)
      | some .reference =>
        match members.lookup "tableName" with
        | none => .error (.fault (.missingKey type "tableName"))
        | some (.str table) => .ok (.reference table)
        | some _ => .error refusedReference
      | some .array =>
        match readAt "value" members with
        | none => .error (.fault (.missingKey type "value"))
        | some element => element.map .array
      | some .object =>
        match readFieldsAt "value" members with
        | none => .error (.fault (.missingKey type "value"))
        | some fields => fields.map .object
      | some .union =>
        match readMembersAt "value" members with
        | none => .error (.fault (.missingKey type "value"))
        | some types => types.map .union
      | some .record =>
        match readAt "keys" members, readWrappedAt "values" members with
        | none, _ => .error (.fault (.missingKey type "keys"))
        | some _, none => .error (.fault (.missingKey type "values"))
        | some key, some value => do
          let k ← key
          let v ← value
          pure (.record k v)
    | some v => .error (.fault (.typeNotText v))
  | v => .error (.fault (.untyped v))

/-- The type of the member with the given name. -/
def readAt (key : String) : List (String × Json) → Option (Except Error TypeTree)
  | [] => none
  | (name, v) :: rest => if key = name then some (readType v) else readAt key rest

/-- The same, where the type may stand in a `fieldType` member of its own. -/
def readWrappedAt (key : String) : List (String × Json) → Option (Except Error TypeTree)
  | [] => none
  | (name, .obj members) :: rest =>
    if key = name then
      match readAt "fieldType" members with
      | some type => some type
      | none => some (readType (.obj members))
    else readWrappedAt key rest
  | (name, v) :: rest => if key = name then some (readType v) else readWrappedAt key rest

/-- The fields of the member with the given name. -/
def readFieldsAt (key : String) : List (String × Json) → Option (Except Error (List (Field TypeTree)))
  | [] => none
  | (name, v) :: rest => if key = name then some (readFieldObject v) else readFieldsAt key rest

def readFieldObject : Json → Except Error (List (Field TypeTree))
  | .obj fields => readFields fields
  | v => .error (.fault (.fieldsNotObject v))

/-- The fields of an object, one for each member. -/
def readFields : List (String × Json) → Except Error (List (Field TypeTree))
  | [] => .ok []
  | (name, entry) :: rest => do
    let field ← readField name entry
    let fields ← readFields rest
    pure (field :: fields)

/-- The field that an entry describes. -/
def readField (name : String) : Json → Except Error (Field TypeTree)
  | .obj members =>
    match readAt "fieldType" members with
    | none => .error (.fault (.fieldWithoutType name))
    | some type => type.map fun t => ⟨name, isOptional members, t⟩
  | _ => .error (.fault (.fieldWithoutType name))

/-- The types of the list in the member with the given name. -/
def readMembersAt (key : String) : List (String × Json) → Option (Except Error (List TypeTree))
  | [] => none
  | (name, v) :: rest => if key = name then some (readMemberList v) else readMembersAt key rest

def readMemberList : Json → Except Error (List TypeTree)
  | .arr items => readMembers items
  | v => .error (.fault (.membersNotList v))

/-- The types of a list, one for each item. -/
def readMembers : List Json → Except Error (List TypeTree)
  | [] => .ok []
  | v :: rest => do
    let type ← readType v
    let types ← readMembers rest
    pure (type :: types)

end

/-! ## Members by name -/

theorem readAt_eq (key : String) :
    ∀ members : List (String × Json), readAt key members = (members.lookup key).map readType
  | [] => by rw [readAt]; rfl
  | (name, v) :: rest => by
    rw [readAt, readAt_eq key rest, Dictionary.lookup_cons_eq_ite]
    split <;> rfl

theorem readFieldsAt_eq (key : String) :
    ∀ members : List (String × Json), readFieldsAt key members = (members.lookup key).map readFieldObject
  | [] => by rw [readFieldsAt]; rfl
  | (name, v) :: rest => by
    rw [readFieldsAt, readFieldsAt_eq key rest, Dictionary.lookup_cons_eq_ite]
    split <;> rfl

theorem readMembersAt_eq (key : String) :
    ∀ members : List (String × Json), readMembersAt key members = (members.lookup key).map readMemberList
  | [] => by rw [readMembersAt]; rfl
  | (name, v) :: rest => by
    rw [readMembersAt, readMembersAt_eq key rest, Dictionary.lookup_cons_eq_ite]
    split <;> rfl

/-- What a value in a record stands for: the type in its `fieldType` member, if it has one. -/
def unwrapped (v : Json) : Json := (v.get? "fieldType").getD v

theorem readWrappedAt_eq (key : String) :
    ∀ members : List (String × Json),
      readWrappedAt key members = (members.lookup key).map fun v => readType (unwrapped v)
  | [] => by rw [readWrappedAt]; rfl
  | (name, v) :: rest => by
    have ih := readWrappedAt_eq key rest
    rw [Dictionary.lookup_cons_eq_ite]
    cases v with
    | obj members =>
      rw [readWrappedAt, ih, readAt_eq]
      cases hm : members.lookup "fieldType" <;> split <;> simp [unwrapped, Json.get?, hm]
    | _ =>
      rw [readWrappedAt, ih]
      · split <;> simp [unwrapped, Json.get?]
      · simp

end SchemaChart.Validator
