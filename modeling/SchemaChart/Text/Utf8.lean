/-
UTF-8 with the reason of a failure: where the first octets that are no character stand, how many of
them belong together, and whether the first octet starts no character, a following octet does not fit,
or the octets end too soon. Line ends are made alike apart from that, in `unifyNewlines`.
-/
namespace SchemaChart.Text.Utf8

/-- Why octets are no character. -/
inductive Reason where
  | invalidStart
  | invalidContinuation
  | unexpectedEnd
  deriving DecidableEq, Repr

/-- Octets that are no character: the first of them, its position, and how many belong together. -/
structure Fault where
  octet : UInt8
  position : Nat
  count : Nat
  reason : Reason
  deriving DecidableEq, Repr

def Reason.message : Reason → String
  | .invalidStart => "invalid start byte"
  | .invalidContinuation => "invalid continuation byte"
  | .unexpectedEnd => "unexpected end of data"

def Fault.message (f : Fault) : String :=
  let hex := String.ofList (Nat.toDigits 16 f.octet.toNat)
  let hex := if hex.length < 2 then "0" ++ hex else hex
  let octets :=
    if f.count = 1 then s!"byte 0x{hex} in position {f.position}"
    else s!"bytes in position {f.position}-{f.position + f.count - 1}"
  s!"'utf-8' codec can't decode {octets}: {f.reason.message}"

/-! ## One character -/

/-- How many octets follow a first octet, and the least and greatest value of the second. -/
def following (first : Nat) : Option (Nat × Nat × Nat) :=
  if first < 0x80 then some (0, 0, 0)
  else if first < 0xc2 then none
  else if first < 0xe0 then some (1, 0x80, 0xbf)
  else if first = 0xe0 then some (2, 0xa0, 0xbf)
  else if first = 0xed then some (2, 0x80, 0x9f)
  else if first < 0xf0 then some (2, 0x80, 0xbf)
  else if first = 0xf0 then some (3, 0x90, 0xbf)
  else if first < 0xf4 then some (3, 0x80, 0xbf)
  else if first = 0xf4 then some (3, 0x80, 0x8f)
  else none

/-- The bits of a first octet that belong to the code point. -/
def leadBits (count first : Nat) : Nat :=
  match count with
  | 0 => first
  | 1 => first % 0x20
  | 2 => first % 0x10
  | _ => first % 0x08

/-- Reads `count` more octets onto the code point so far, the next of them between `low` and `high`.
A failure tells how many octets were good, and why no more. -/
def continuation (code : Nat) : (count low high good : Nat) → List UInt8 → Except (Nat × Reason) Nat
  | 0, _, _, _, _ => .ok code
  | _ + 1, _, _, good, [] => .error (good, .unexpectedEnd)
  | count + 1, low, high, good, b :: rest =>
    if low ≤ b.toNat ∧ b.toNat ≤ high then
      continuation (code * 64 + b.toNat % 64) count 0x80 0xbf (good + 1) rest
    else .error (good, .invalidContinuation)

/-! ## A text -/

/-- The characters of the octets, where `skip` octets still belong to a character already read. -/
def decodeFrom : (position skip : Nat) → List UInt8 → Except Fault (List Char)
  | _, _, [] => .ok []
  | position, skip + 1, _ :: rest => decodeFrom (position + 1) skip rest
  | position, 0, b :: rest =>
    match following b.toNat with
    | none => .error ⟨b, position, 1, .invalidStart⟩
    | some (count, low, high) =>
      match continuation (leadBits count b.toNat) count low high 1 rest with
      | .error (good, reason) => .error ⟨b, position, good, reason⟩
      | .ok code => do
        let chars ← decodeFrom (position + 1) count rest
        pure (Char.ofNat code :: chars)

/-- The text that the octets are. -/
def decode (octets : List UInt8) : Except Fault String :=
  (decodeFrom 0 0 octets).map String.ofList

end SchemaChart.Text.Utf8

namespace SchemaChart.Text

/-- Every line end a single line feed: a carriage return becomes one, together with a line feed that
follows it. -/
def unifyNewlines : List Char → List Char
  | [] => []
  | '\r' :: '\n' :: rest => '\n' :: unifyNewlines rest
  | '\r' :: rest => '\n' :: unifyNewlines rest
  | c :: rest => c :: unifyNewlines rest

end SchemaChart.Text
