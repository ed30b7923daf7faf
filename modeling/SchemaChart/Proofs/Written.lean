/-
Validators written and read back. A type has several written forms: some primitives have a second name, and a whole
number of 64 bits may also stand encoded (`Written`). Every type has a written form (`written_write`), and each of its
written forms denotes the type, whatever other members there are and in whatever order (`denotes_of_written`).
-/
import SchemaChart.Proofs.Denoted

namespace SchemaChart.Validator

open Codec

/-! ## Literals -/

/-- The text that a whole number of 64 bits is encoded as. -/
def integerText (n : Int) : String := String.ofList (Base64.encode (LittleEndian.ofInt 8 n))

theorem spells_integerText (n : Int) : Base64.Spells (integerText n).toList (LittleEndian.ofInt 8 n) := by
  have hlength := LittleEndian.length_ofInt 8 n
  have hoctets : ∀ o ∈ LittleEndian.ofInt 8 n, o < 256 := fun o ho => LittleEndian.lt_of_mem_ofNat ho
  rw [integerText, String.toList_ofList]
  exact (Base64.decode_eq_ok_iff (by rw [hlength]; decide)).1 (Base64.decode_encode hoctets)

/-- The written forms of a literal: its scalar, and a whole number of 64 bits also encoded. -/
inductive WrittenLiteral : Literal → Json → Prop
  | scalar (value : Literal) : WrittenLiteral value (scalar value)
  | encoded {n : Int} : FitsWord n → WrittenLiteral (.int n) (.obj [(integerKey, .str (integerText n))])

theorem denotesLiteral_of_written {value : Literal} {v : Json} (h : WrittenLiteral value v) :
    DenotesLiteral v value := by
  cases h with
  | scalar => exact .scalar value
  | @encoded n hn => exact .encoded hn (spells_integerText n)

/-! ## Types -/

mutual

/-- The written forms of a type. Of the members of an object only those that are named count. -/
inductive Written : TypeTree → Json → Prop
  | primitive {kind : Primitive} {name : String} {v : Json} :
      name ∈ spellings kind → v.get? "type" = some (.str name) → Written (.primitive kind) v
  | literal {value : Literal} {v x : Json} :
      v.get? "type" = some (.str "literal") → v.get? "value" = some x → WrittenLiteral value x →
        Written (.literal value) v
  | reference {table : String} {v : Json} :
      v.get? "type" = some (.str "id") → v.get? "tableName" = some (.str table) → Written (.reference table) v
  | object {fields : List (Field TypeTree)} {v : Json} {entries : List (String × Json)} :
      v.get? "type" = some (.str "object") → v.get? "value" = some (.obj entries) → WrittenFields fields entries →
        Written (.object fields) v
  | union {members : List TypeTree} {v : Json} {items : List Json} :
      v.get? "type" = some (.str "union") → v.get? "value" = some (.arr items) → WrittenMembers members items →
        Written (.union members) v
  | array {element : TypeTree} {v x : Json} :
      v.get? "type" = some (.str "array") → v.get? "value" = some x → Written element x → Written (.array element) v
  | record {key value : TypeTree} {v k w x : Json} :
      v.get? "type" = some (.str "record") → v.get? "keys" = some k → v.get? "values" = some w →
        w.get? "fieldType" = some x → Written key k → Written value x → Written (.record key value) v

/-- The written forms of the fields of an object: a type and whether it is optional, under the name of the field. -/
inductive WrittenFields : List (Field TypeTree) → List (String × Json) → Prop
  | nil : WrittenFields [] []
  | cons {name : String} {optional : Bool} {type : TypeTree} {fields : List (Field TypeTree)} {entry x : Json}
      {entries : List (String × Json)} :
      entry.get? "fieldType" = some x → entry.get? "optional" = some (.bool optional) → Written type x →
        WrittenFields fields entries → WrittenFields (⟨name, optional, type⟩ :: fields) ((name, entry) :: entries)

/-- The written forms of the members of a union. -/
inductive WrittenMembers : List TypeTree → List Json → Prop
  | nil : WrittenMembers [] []
  | cons {type : TypeTree} {types : List TypeTree} {v : Json} {items : List Json} :
      Written type v → WrittenMembers types items → WrittenMembers (type :: types) (v :: items)

end

mutual

theorem denotes_of_written : ∀ {type : TypeTree} {v : Json}, Written type v → Denotes v type
  | _, _, .primitive hname htype => .primitive htype hname
  | _, _, .literal htype hvalue hx => .literal htype hvalue (denotesLiteral_of_written hx)
  | _, _, .reference htype htable => .reference htype htable
  | _, _, .object htype hvalue hfields => .object htype hvalue (denotesFields_of_written hfields)
  | _, _, .union htype hvalue hmembers => .union htype hvalue (denotesMembers_of_written hmembers)
  | _, _, .array htype hvalue hx => .array htype hvalue (denotes_of_written hx)
  | _, _, .record htype hkeys hvalues hx hk hv =>
    .record htype hkeys hvalues (.wrapped hx) (denotes_of_written hk) (denotes_of_written hv)

theorem denotesFields_of_written : ∀ {fields : List (Field TypeTree)} {entries : List (String × Json)},
    WrittenFields fields entries → DenotesFields entries fields
  | _, _, .nil => .nil
  | _, _, @WrittenFields.cons _ optional _ _ entry _ _ hx hoptional htype hfields => by
    have hsays : saysOptional entry = optional := by
      rw [saysOptional, hoptional]
      rfl
    rw [← hsays]
    exact .cons hx (denotes_of_written htype) (denotesFields_of_written hfields)

theorem denotesMembers_of_written : ∀ {members : List TypeTree} {items : List Json},
    WrittenMembers members items → DenotesMembers items members
  | _, _, .nil => .nil
  | _, _, .cons htype hmembers => .cons (denotes_of_written htype) (denotesMembers_of_written hmembers)

end

/-! ## Writing -/

mutual

/-- A written form of a type, with no name but the first and no number encoded. -/
def write : TypeTree → Json
  | .primitive kind => .obj [("type", .str kind.name)]
  | .literal value => .obj [("type", .str "literal"), ("value", scalar value)]
  | .reference table => .obj [("type", .str "id"), ("tableName", .str table)]
  | .object fields => .obj [("type", .str "object"), ("value", .obj (writeFields fields))]
  | .union members => .obj [("type", .str "union"), ("value", .arr (writeMembers members))]
  | .array element => .obj [("type", .str "array"), ("value", write element)]
  | .record key value =>
    .obj [("type", .str "record"), ("keys", write key),
      ("values", .obj [("fieldType", write value), ("optional", .bool false)])]

def writeFields : List (Field TypeTree) → List (String × Json)
  | [] => []
  | ⟨name, optional, type⟩ :: rest =>
    (name, .obj [("fieldType", write type), ("optional", .bool optional)]) :: writeFields rest

def writeMembers : List TypeTree → List Json
  | [] => []
  | type :: rest => write type :: writeMembers rest

end

mutual

theorem written_write : ∀ type : TypeTree, Written type (write type)
  | .primitive kind => by rw [write]; exact .primitive (name_mem_spellings kind) rfl
  | .literal value => by rw [write]; exact .literal rfl rfl (.scalar value)
  | .reference table => by rw [write]; exact .reference rfl rfl
  | .object fields => by rw [write]; exact .object rfl rfl (written_writeFields fields)
  | .union members => by rw [write]; exact .union rfl rfl (written_writeMembers members)
  | .array element => by rw [write]; exact .array rfl rfl (written_write element)
  | .record key value => by
    rw [write]; exact .record rfl rfl rfl rfl (written_write key) (written_write value)

theorem written_writeFields : ∀ fields : List (Field TypeTree), WrittenFields fields (writeFields fields)
  | [] => by rw [writeFields]; exact .nil
  | ⟨name, optional, type⟩ :: rest => by
    rw [writeFields]; exact .cons rfl rfl (written_write type) (written_writeFields rest)

theorem written_writeMembers : ∀ members : List TypeTree, WrittenMembers members (writeMembers members)
  | [] => by rw [writeMembers]; exact .nil
  | type :: rest => by rw [writeMembers]; exact .cons (written_write type) (written_writeMembers rest)

end

end SchemaChart.Validator
