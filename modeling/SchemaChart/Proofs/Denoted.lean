/-
The grammar of validators. Rules say which value denotes which type, one rule for each form (`Denotes`), and say nothing
about the order in which a reader looks at the parts or what it makes of a value that fits no rule. A validator is
read as the type that it denotes, and it is refused exactly when it denotes none (`readType_iff_denotes`).
-/
import SchemaChart.Proofs.Forms
import SchemaChart.Proofs.Octets

namespace SchemaChart.Validator

open Codec

/-! ## Literals -/

/-- The whole numbers of 64 bits. -/
def FitsWord (n : Int) : Prop := -9223372036854775808 ≤ n ∧ n ≤ 9223372036854775807

/-- The scalar that a literal is. -/
def scalar : Literal → Json
  | .bool b => .bool b
  | .int n => .int n
  | .real x => .real x
  | .str s => .str s

/-- The rules for literals: a scalar denotes itself, and an object with a single member, the strict text of eight
octets, the whole number that has these octets. -/
inductive DenotesLiteral : Json → Literal → Prop
  | scalar (value : Literal) : DenotesLiteral (scalar value) value
  | encoded {n : Int} {s : String} : FitsWord n → Base64.Spells s.toList (LittleEndian.ofInt 8 n) →
      DenotesLiteral (.obj [(integerKey, .str s)]) (.int n)

theorem integerOctets_eq_ok_iff {s : String} {os : List Nat} (h : os.length = 8) :
    integerOctets (.str s) = .ok os ↔ Base64.Spells s.toList os := by
  have hdecode : Base64.decode s.toList = .ok os ↔ Base64.Spells s.toList os :=
    Base64.decode_eq_ok_iff (by rw [h]; decide)
  rw [integerOctets]
  by_cases hascii : s.toList.all (·.toNat < 0x80) = true
  · rw [if_pos hascii, mapError_eq_ok_iff, hdecode]
  · rw [if_neg hascii]
    constructor
    · intro hr; cases hr
    · intro hs
      exact absurd (List.all_eq_true.2 fun c hc => decide_eq_true (hs.ascii c hc)) hascii

theorem fitsWord_toInt {os : List Nat} (h : os.length = 8) : FitsWord (LittleEndian.toInt os) := by
  have hrange : Nat.pow 256 8 = 18446744073709551616 := rfl
  have hleast := @Int.le_bmod (LittleEndian.toNat os) (Nat.pow 256 8) (by decide)
  have hgreatest := @Int.bmod_lt (LittleEndian.toNat os) (Nat.pow 256 8) (by decide)
  rw [LittleEndian.toInt, h]
  rw [hrange] at hleast hgreatest ⊢
  constructor <;> omega

theorem toInt_ofInt_of_fitsWord {n : Int} (h : FitsWord n) : LittleEndian.toInt (LittleEndian.ofInt 8 n) = n := by
  obtain ⟨least, greatest⟩ := h
  have hrange : (Nat.pow 256 8 : Int) = 18446744073709551616 := rfl
  exact LittleEndian.toInt_ofInt (by omega) (by omega)

theorem readInteger_eq_ok_iff {s : String} {n : Int} :
    readInteger (.str s) = .ok n ↔ FitsWord n ∧ Base64.Spells s.toList (LittleEndian.ofInt 8 n) := by
  rw [readInteger]
  constructor
  · intro h
    rcases hos : integerOctets (.str s) with e | os
    · rw [hos] at h; cases h
    · rw [hos] at h
      dsimp only at h
      split_ifs at h with hlength
      cases h
      have hs : Base64.Spells s.toList os := (integerOctets_eq_ok_iff hlength).1 hos
      have hsame : LittleEndian.ofInt 8 (LittleEndian.toInt os) = os := hlength ▸ LittleEndian.ofInt_toInt hs.lt
      exact ⟨fitsWord_toInt hlength, by rwa [hsame]⟩
  · rintro ⟨hn, hs⟩
    have hlength := LittleEndian.length_ofInt 8 n
    rw [(integerOctets_eq_ok_iff hlength).2 hs]
    simp only [if_pos hlength, toInt_ofInt_of_fitsWord hn]

theorem encodedInteger?_eq_some_iff {v encoded : Json} :
    encodedInteger? v = some encoded ↔ v = .obj [(integerKey, encoded)] := by
  constructor
  · intro h
    unfold encodedInteger? at h
    split at h
    · split_ifs at h with hkey
      cases h
      rw [hkey]
    · cases h
  · rintro rfl
    rw [encodedInteger?, if_pos rfl]

theorem ofJson?_eq_some_iff {v : Json} {value : Literal} : Literal.ofJson? v = some value ↔ v = scalar value := by
  constructor
  · intro h
    cases v with
    | bool | int | real | str => cases h; rfl
    | null | arr | obj => cases h
  · rintro rfl
    cases value <;> rfl

/-- A literal is read exactly as the rules say. -/
theorem readLiteral_eq_ok_iff {v : Json} {value : Literal} : readLiteral v = .ok value ↔ DenotesLiteral v value := by
  rw [readLiteral]
  constructor
  · intro h
    rcases hscalar : Literal.ofJson? v with _ | l
    · rw [hscalar] at h
      rcases hencoded : encodedInteger? v with _ | encoded
      · rw [hencoded] at h; cases h
      · rw [hencoded] at h
        obtain rfl := encodedInteger?_eq_some_iff.1 hencoded
        rcases hn : readInteger encoded with e | n
        · simp only [hn] at h; cases h
        · simp only [hn] at h; cases h
          cases encoded with
          | str s =>
            obtain ⟨hfits, hs⟩ := readInteger_eq_ok_iff.1 hn
            exact .encoded hfits hs
          | null | bool | int | real | arr | obj => cases hn
    · rw [hscalar] at h; cases h
      obtain rfl := ofJson?_eq_some_iff.1 hscalar
      exact .scalar value
  · intro h
    cases h with
    | scalar => rw [ofJson?_eq_some_iff.2 rfl]
    | @encoded n s hn hs =>
      have hscalar : Literal.ofJson? (.obj [(integerKey, .str s)]) = none := rfl
      have hencoded : encodedInteger? (.obj [(integerKey, .str s)]) = some (.str s) := encodedInteger?_eq_some_iff.2 rfl
      rw [hscalar, hencoded]
      simp only [readInteger_eq_ok_iff.2 ⟨hn, hs⟩]

/-! ## Types -/

/-- The rules for the values of a record: the type stands in a `fieldType` member, or else it is the value itself. -/
inductive Wraps : Json → Json → Prop
  | wrapped {w x : Json} : w.get? "fieldType" = some x → Wraps w x
  | bare {w : Json} : w.get? "fieldType" = none → Wraps w w

theorem wraps_iff {w x : Json} : Wraps w x ↔ unwrapped w = x := by
  rw [unwrapped]
  constructor
  · rintro (h | h)
    · rw [h, Option.getD_some]
    · rw [h, Option.getD_none]
  · rintro rfl
    rcases h : w.get? "fieldType" with _ | x
    · exact .bare h
    · exact .wrapped h

mutual

/-- The rules for types: the name of the form, and what must stand under the members of that form. Members without a
rule may be there, in whatever order. -/
inductive Denotes : Json → TypeTree → Prop
  | primitive {v : Json} {name : String} {kind : Primitive} :
      v.get? "type" = some (.str name) → name ∈ spellings kind → Denotes v (.primitive kind)
  | literal {v x : Json} {value : Literal} :
      v.get? "type" = some (.str "literal") → v.get? "value" = some x → DenotesLiteral x value →
        Denotes v (.literal value)
  | reference {v : Json} {table : String} :
      v.get? "type" = some (.str "id") → v.get? "tableName" = some (.str table) → Denotes v (.reference table)
  | array {v x : Json} {element : TypeTree} :
      v.get? "type" = some (.str "array") → v.get? "value" = some x → Denotes x element → Denotes v (.array element)
  | object {v : Json} {entries : List (String × Json)} {fields : List (Field TypeTree)} :
      v.get? "type" = some (.str "object") → v.get? "value" = some (.obj entries) → DenotesFields entries fields →
        Denotes v (.object fields)
  | union {v : Json} {items : List Json} {members : List TypeTree} :
      v.get? "type" = some (.str "union") → v.get? "value" = some (.arr items) → DenotesMembers items members →
        Denotes v (.union members)
  | record {v k w x : Json} {key value : TypeTree} :
      v.get? "type" = some (.str "record") → v.get? "keys" = some k → v.get? "values" = some w → Wraps w x →
        Denotes k key → Denotes x value → Denotes v (.record key value)

/-- The rule for the fields of an object: one for each member, under its name, in the same order. -/
inductive DenotesFields : List (String × Json) → List (Field TypeTree) → Prop
  | nil : DenotesFields [] []
  | cons {name : String} {entry x : Json} {type : TypeTree} {entries : List (String × Json)}
      {fields : List (Field TypeTree)} :
      entry.get? "fieldType" = some x → Denotes x type → DenotesFields entries fields →
        DenotesFields ((name, entry) :: entries) (⟨name, saysOptional entry, type⟩ :: fields)

/-- The rule for the members of a union: one for each item, in the same order. -/
inductive DenotesMembers : List Json → List TypeTree → Prop
  | nil : DenotesMembers [] []
  | cons {v : Json} {type : TypeTree} {items : List Json} {types : List TypeTree} :
      Denotes v type → DenotesMembers items types → DenotesMembers (v :: items) (type :: types)

end

theorem Denotes.exists_type {v : Json} {t : TypeTree} (h : Denotes v t) : ∃ name, v.get? "type" = some (.str name) := by
  cases h with
  | primitive htype | literal htype | reference htype | array htype | object htype | union htype | record htype =>
    exact ⟨_, htype⟩

/-! ## What is denoted is read -/

theorem readType_of_name {v : Json} {name : String} (form : Form) (htype : v.get? "type" = some (.str name))
    (hname : name ∈ form.names) : readType v = readForm name v form :=
  readType_eq_readForm form htype (Form.ofName?_eq_some_iff.2 hname)

mutual

theorem readType_of_denotes : ∀ {v : Json} {t : TypeTree}, Denotes v t → readType v = .ok t
  | _, _, @Denotes.primitive _ _ kind htype hname => by
    rw [readType_of_name (.primitive kind) htype hname, readForm]
  | _, _, .literal htype hx hvalue => by
    rw [readType_of_name .literal htype (by decide), readForm, required_eq hx, readLiteral_eq_ok_iff.2 hvalue]
    rfl
  | _, _, .reference htype htable => by
    rw [readType_of_name .reference htype (by decide), readForm, required_eq htable, readTable]
  | _, _, .array htype hx helement => by
    rw [readType_of_name .array htype (by decide), readForm, required_eq hx, readType_of_denotes helement]
    rfl
  | _, _, .object htype hx hfields => by
    rw [readType_of_name .object htype (by decide), readForm, required_eq hx, readFieldObject,
      readFields_of_denotes hfields]
    rfl
  | _, _, .union htype hx hmembers => by
    rw [readType_of_name .union htype (by decide), readForm, required_eq hx, readMemberList,
      readMembers_of_denotes hmembers]
    rfl
  | _, _, .record htype hk hw hx hkey hvalue => by
    rw [readType_of_name .record htype (by decide), readForm, required_eq hk, required_eq hw,
      wraps_iff.1 hx, readType_of_denotes hkey, readType_of_denotes hvalue]
    rfl

theorem readFields_of_denotes : ∀ {entries : List (String × Json)} {fields : List (Field TypeTree)},
    DenotesFields entries fields → readFields entries = .ok fields
  | _, _, .nil => by rw [readFields]
  | _, _, .cons hx htype hfields => by
    rw [readFields, readField_eq, hx]
    simp only [readType_of_denotes htype, readFields_of_denotes hfields]
    rfl

theorem readMembers_of_denotes : ∀ {items : List Json} {members : List TypeTree},
    DenotesMembers items members → readMembers items = .ok members
  | _, _, .nil => by rw [readMembers]
  | _, _, .cons htype hmembers => by
    rw [readMembers, readType_of_denotes htype, readMembers_of_denotes hmembers]
    rfl

end

/-! ## What is read is denoted -/

/-- Every type that a value is read as is denoted by the value. -/
def ReadAsDenoted (v : Json) : Prop := ∀ t, readType v = .ok t → Denotes v t

theorem denotesFields_of_readFields {entries : List (String × Json)} {fields : List (Field TypeTree)}
    (hparts : ∀ p ∈ entries, ∀ x, fieldPart p.1 p.2 = .ok x → ReadAsDenoted x) (h : readFields entries = .ok fields) :
    DenotesFields entries fields := by
  induction entries generalizing fields with
  | nil =>
    rw [readFields] at h; cases h
    exact .nil
  | cons p rest ih =>
    obtain ⟨hp, hrest⟩ := List.forall_mem_cons.1 hparts
    rw [readFields] at h
    obtain ⟨field, others, hfield, hothers, rfl⟩ := both_eq_ok_iff.1 h
    rw [readField_eq] at hfield
    rcases hx : p.2.get? "fieldType" with _ | x
    · rw [hx] at hfield; cases hfield
    · rw [hx] at hfield
      obtain ⟨type, htype, rfl⟩ := map_eq_ok_iff.1 hfield
      exact .cons hx (hp x (fieldPart_eq_ok_iff.2 hx) type htype) (ih hrest hothers)

theorem denotesMembers_of_readMembers {items : List Json} {members : List TypeTree}
    (hparts : ∀ x ∈ items, ReadAsDenoted x) (h : readMembers items = .ok members) : DenotesMembers items members := by
  induction items generalizing members with
  | nil =>
    rw [readMembers] at h; cases h
    exact .nil
  | cons v rest ih =>
    obtain ⟨hv, hrest⟩ := List.forall_mem_cons.1 hparts
    rw [readMembers] at h
    obtain ⟨type, others, htype, hothers, rfl⟩ := both_eq_ok_iff.1 h
    exact .cons (hv type htype) (ih hrest hothers)

/-- A validator is read as denoted if the validators inside it are. -/
theorem denotes_of_readForm {v : Json} {name : String} {form : Form} {t : TypeTree}
    (hparts : ∀ x, .ok x ∈ parts v form → ReadAsDenoted x) (htype : v.get? "type" = some (.str name))
    (hname : name ∈ form.names) (h : readForm name v form = .ok t) : Denotes v t := by
  cases form with
  | primitive kind =>
    cases h
    exact .primitive htype hname
  | literal =>
    obtain rfl := List.mem_singleton.1 hname
    obtain ⟨x, hx, h⟩ := required_eq_ok_iff.1 h
    obtain ⟨value, hvalue, rfl⟩ := map_eq_ok_iff.1 h
    exact .literal htype hx (readLiteral_eq_ok_iff.1 (mapError_eq_ok_iff.1 hvalue))
  | reference =>
    obtain rfl := List.mem_singleton.1 hname
    obtain ⟨x, hx, h⟩ := required_eq_ok_iff.1 h
    cases x with
    | str table => cases h; exact .reference htype hx
    | null | bool | int | real | arr | obj => cases h
  | array =>
    obtain rfl := List.mem_singleton.1 hname
    obtain ⟨x, hx, h⟩ := required_eq_ok_iff.1 h
    obtain ⟨element, helement, rfl⟩ := map_eq_ok_iff.1 h
    exact .array htype hx (hparts x (by simp [parts, hx]) element helement)
  | object =>
    obtain rfl := List.mem_singleton.1 hname
    obtain ⟨x, hx, h⟩ := required_eq_ok_iff.1 h
    obtain ⟨fields, hfields, rfl⟩ := map_eq_ok_iff.1 h
    cases x with
    | obj entries =>
      rw [readFieldObject] at hfields
      refine .object htype hx (denotesFields_of_readFields (fun p hp y hy => hparts y ?_) hfields)
      simp only [parts, hx]
      exact List.mem_map.2 ⟨p, hp, hy⟩
    | null | bool | int | real | str | arr => simp [readFieldObject] at hfields
  | union =>
    obtain rfl := List.mem_singleton.1 hname
    obtain ⟨x, hx, h⟩ := required_eq_ok_iff.1 h
    obtain ⟨members, hmembers, rfl⟩ := map_eq_ok_iff.1 h
    cases x with
    | arr items =>
      rw [readMemberList] at hmembers
      refine .union htype hx (denotesMembers_of_readMembers (fun y hy => hparts y ?_) hmembers)
      simp only [parts, hx]
      exact List.mem_map_of_mem hy
    | null | bool | int | real | str | obj => simp [readMemberList] at hmembers
  | record =>
    obtain rfl := List.mem_singleton.1 hname
    obtain ⟨k, hk, h⟩ := required_eq_ok_iff.1 h
    obtain ⟨w, hw, h⟩ := required_eq_ok_iff.1 h
    obtain ⟨key, value, hkey, hvalue, rfl⟩ := both_eq_ok_iff.1 h
    exact .record htype hk hw (wraps_iff.2 rfl) (hparts k (by simp [parts, hk]) key hkey)
      (hparts _ (by simp [parts, hw]) value hvalue)

theorem readAsDenoted (v : Json) : ReadAsDenoted v := by
  refine induction_parts (fun v ih t h => ?_) v
  rw [readType_eq] at h
  rcases hform : formOf v with f | ⟨name, form⟩
  · rw [hform] at h; cases h
  · rw [hform] at h
    obtain ⟨htype, hname⟩ := formOf_eq_ok_iff.1 hform
    exact denotes_of_readForm (ih form) htype hname h

theorem readType_eq_ok_iff {v : Json} {t : TypeTree} : readType v = .ok t ↔ Denotes v t :=
  ⟨readAsDenoted v t, readType_of_denotes⟩

/-- A value is read as a type exactly when it denotes the type, and refused exactly when it denotes none. -/
theorem readType_iff_denotes (v : Json) :
    (∀ t, readType v = .ok t ↔ Denotes v t) ∧ ((∃ e, readType v = .error e) ↔ ¬∃ t, Denotes v t) := by
  refine ⟨fun t => readType_eq_ok_iff, ?_⟩
  simp only [← readType_eq_ok_iff]
  rcases readType v with e | t
  · simp
  · simp

end SchemaChart.Validator
