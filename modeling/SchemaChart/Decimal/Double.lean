/-
Doubles as exact numbers: a finite one is a sign, a significand and a power of two. Reading a decimal
gives the nearest double; halfway, the one with the even significand; past the largest, an infinity.
Nothing here goes through machine floating point, so every value can be computed with in proofs.
-/
namespace SchemaChart

/-- The quotient rounded to the nearest whole number, a half to the even one. -/
def roundDiv (num den : Nat) : Nat :=
  let q := num / den
  let r := num % den
  if den < 2 * r ∨ (2 * r = den ∧ q % 2 = 1) then q + 1 else q

/-- A double. A finite one is `± significand · 2 ^ power`, with `2 ^ 52 ≤ significand < 2 ^ 53`, or a
smaller significand at the least power `-1074`. -/
inductive Double where
  | nan
  | infinite (negative : Bool)
  | finite (negative : Bool) (significand : Nat) (power : Int)
  deriving DecidableEq, Repr

namespace Double

/-- The least power of two of a double. -/
def leastPower : Int := -1074

/-- The greatest power of two of a double. -/
def greatestPower : Int := 971

/-- The least significand of full width: `2 ^ 52`. -/
def fullSignificand : Nat := 4503599627370496

def zero (negative : Bool) : Double := .finite negative 0 leastPower

/-! ## From ratios and decimals -/

/-- `num / den · 2 ^ (-power)`, rounded. -/
def scaledRound (num den : Nat) (power : Int) : Nat :=
  if 0 ≤ power then roundDiv num (den * Nat.pow 2 power.toNat)
  else roundDiv (num * Nat.pow 2 (-power).toNat) den

/-- `2 ^ k ≤ num / den`. -/
def powerLe (k : Int) (num den : Nat) : Bool :=
  if 0 ≤ k then decide (den * Nat.pow 2 k.toNat ≤ num) else decide (den ≤ num * Nat.pow 2 (-k).toNat)

/-- The greatest `k` with `2 ^ k ≤ num / den`. -/
def binade (num den : Nat) : Int :=
  let k : Int := (num.log2 : Int) - (den.log2 : Int)
  if powerLe k num den then k else k - 1

/-- The double nearest to `num / den`. -/
def ofRatio (negative : Bool) (num den : Nat) : Double :=
  if num = 0 then zero negative
  else
    let power := max (binade num den - 52) leastPower
    let rounded := scaledRound num den power
    let (m, p) := if rounded = 2 * fullSignificand then (fullSignificand, power + 1) else (rounded, power)
    if greatestPower < p then .infinite negative else .finite negative m p

/-- The double nearest to `digits · 10 ^ exponent`. Numbers that lie far outside the range of doubles
are settled by their magnitude alone, without forming the power. -/
def ofDecimal (negative : Bool) (digits : Nat) (exponent : Int) : Double :=
  if digits = 0 then zero negative
  else
    let magnitude : Int := (Nat.toDigits 10 digits).length + exponent
    if 310 < magnitude then .infinite negative
    else if magnitude < -330 then zero negative
    else if 0 ≤ exponent then ofRatio negative (digits * Nat.pow 10 exponent.toNat) 1
    else ofRatio negative digits (Nat.pow 10 (-exponent).toNat)

/-! ## Whole values -/

/-- The whole number that a double is, if it is one. -/
def toInt? : Double → Option Int
  | .finite negative m p =>
    let signed (n : Nat) : Int := if negative then -(n : Int) else n
    if 0 ≤ p then some (signed (m * Nat.pow 2 p.toNat))
    else
      let d := Nat.pow 2 (-p).toNat
      if m % d = 0 then some (signed (m / d)) else none
  | _ => none

/-- Zero of either sign. -/
def isZero : Double → Bool
  | .finite _ m _ => m == 0
  | _ => false

end Double

end SchemaChart
