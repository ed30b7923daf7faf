/-
Base64 and whole numbers in octets. Base64 is read strictly: nothing but the alphabet, padding only where it
completes a group, and nothing behind it; the bits that the last character of a group has beyond whole octets are
ignored, and `Base64.encode` writes the one form with those bits zero. Whole numbers are octets in two's complement,
the least significant octet first.
-/
namespace SchemaChart.Codec.Base64

/-- Why a text is not Base64. -/
inductive Fault where
  | leadingPadding
  | excessData
  | foreignCharacter
  | discontinuousPadding
  /-- One character is left over after the whole groups; `count` characters in all are data. -/
  | danglingCharacter (count : Nat)
  | incorrectPadding
  deriving DecidableEq, Repr

def Fault.message : Fault → String
  | .leadingPadding => "Leading padding not allowed"
  | .excessData => "Excess data after padding"
  | .foreignCharacter => "Only base64 data is allowed"
  | .discontinuousPadding => "Discontinuous padding not allowed"
  | .danglingCharacter count =>
    s!"Invalid base64-encoded string: number of data characters ({count}) cannot be 1 more than a multiple of 4"
  | .incorrectPadding => "Incorrect padding"

/-! ## The alphabet -/

/-- The value of a character of the alphabet. -/
def sextet? (c : Char) : Option Nat :=
  let n := c.toNat
  if 65 ≤ n ∧ n ≤ 90 then some (n - 65)
  else if 97 ≤ n ∧ n ≤ 122 then some (n - 71)
  else if 48 ≤ n ∧ n ≤ 57 then some (n + 4)
  else if n = 43 then some 62
  else if n = 47 then some 63
  else none

/-- The character of a value below 64. -/
def character (n : Nat) : Char :=
  if n < 26 then Char.ofNat (n + 65)
  else if n < 52 then Char.ofNat (n + 71)
  else if n < 62 then Char.ofNat (n - 4)
  else if n = 62 then '+'
  else '/'

/-! ## Reading -/

/-- The octets of sextets, four sextets to three octets; bits short of an octet are dropped. -/
def octets : List Nat → List Nat
  | a :: b :: c :: d :: rest => (a * 4 + b / 16) :: (b % 16 * 16 + c / 4) :: (c % 4 * 64 + d) :: octets rest
  | [a, b, c] => [a * 4 + b / 16, b % 16 * 16 + c / 4]
  | [a, b] => [a * 4 + b / 16]
  | _ => []

/-- The sextets of a text. `count` sextets and then `pads` padding characters have been read since the
text began; padding before the second sextet of a group completes nothing. -/
def sextets (count pads : Nat) (padded : Bool) : List Char → Except Fault (List Nat)
  | [] =>
    if count % 4 = 0 then .ok []
    else if count % 4 = 1 then .error (.danglingCharacter count)
    else .error .incorrectPadding
  | c :: rest =>
    if c = '=' then
      if 2 ≤ count % 4 then
        if 4 ≤ count % 4 + (pads + 1) then
          if rest = [] then .ok [] else .error .excessData
        else sextets count (pads + 1) true rest
      else sextets count pads true rest
    else
      match sextet? c with
      | none => .error .foreignCharacter
      | some n =>
        if padded then .error .discontinuousPadding
        else do
          let ns ← sextets (count + 1) 0 false rest
          pure (n :: ns)

/-- The octets that a text stands for. -/
def decode (text : List Char) : Except Fault (List Nat) :=
  if text.head? = some '=' then .error .leadingPadding
  else (sextets 0 0 false text).map octets

/-! ## Writing -/

/-- The text of octets. -/
def encode : List Nat → List Char
  | a :: b :: c :: rest =>
    character (a / 4) :: character (a % 4 * 16 + b / 16) :: character (b % 16 * 4 + c / 64) ::
      character (c % 64) :: encode rest
  | [a, b] => [character (a / 4), character (a % 4 * 16 + b / 16), character (b % 16 * 4), '=']
  | [a] => [character (a / 4), character (a % 4 * 16), '=', '=']
  | [] => []

end SchemaChart.Codec.Base64

namespace SchemaChart.Codec.LittleEndian

/-- The natural number of octets. -/
def toNat : List Nat → Nat
  | [] => 0
  | b :: rest => b + 256 * toNat rest

/-- The whole number of octets: the top bit counts negatively. -/
def toInt (octets : List Nat) : Int :=
  Int.bmod (toNat octets : Int) (Nat.pow 256 octets.length)

/-- The lowest `count` octets of a natural number. -/
def ofNat : (count n : Nat) → List Nat
  | 0, _ => []
  | count + 1, n => n % 256 :: ofNat count (n / 256)

/-- A whole number in `count` octets. -/
def ofInt (count : Nat) (n : Int) : List Nat := ofNat count (n % (Nat.pow 256 count : Int)).toNat

end SchemaChart.Codec.LittleEndian
