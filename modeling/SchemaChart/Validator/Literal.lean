/-
Literal values of validators. A scalar stands for itself. A whole number of 64 bits may also be written
as an object with the single member `$integer`, the Base64 text of its eight octets, least significant
first.
-/
import SchemaChart.Schema.Literal
import SchemaChart.Codec
import SchemaChart.Validator.Fault

namespace SchemaChart.Validator

/-- The member that holds an encoded whole number. -/
def integerKey : String := "$integer"

/-- The octets of an encoded whole number. -/
def integerOctets : Json → Except IntegerFault (List Nat)
  | .str s =>
    if s.toList.all (·.toNat < 0x80) then (Codec.Base64.decode s.toList).mapError .base64
    else .error .notAscii
  | v => .error (.notText (kindOf v))

/-- The whole number that an encoding stands for. -/
def readInteger (encoded : Json) : Except IntegerFault Int :=
  match integerOctets encoded with
  | .error e => .error e
  | .ok octets =>
    if octets.length = 8 then .ok (Codec.LittleEndian.toInt octets) else .error (.size octets.length)

/-- The encoding in an object that has nothing else. -/
def encodedInteger? : Json → Option Json
  | .obj [(key, encoded)] => if key = integerKey then some encoded else none
  | _ => none

/-- The literal that a value stands for. -/
def readLiteral (v : Json) : Except Fault Literal :=
  match Literal.ofJson? v with
  | some l => .ok l
  | none =>
    match encodedInteger? v with
    | none => .error (.unsupportedLiteral v)
    | some encoded =>
      match readInteger encoded with
      | .ok n => .ok (.int n)
      | .error cause => .error (.badInteger encoded cause)

end SchemaChart.Validator
