/-
The shortest decimal that reads back as a given double. Of the decimals with the fewest digits that
lie in the interval of numbers rounding to the double, the nearest is taken; halfway between two, the
one with the even last digit. The ends of the interval belong to it when the significand is even.
All comparisons are between natural numbers.
-/
import SchemaChart.Decimal.Double

namespace SchemaChart

/-- The number `digits · 10 ^ exponent`. -/
structure Decimal where
  digits : Nat
  exponent : Int
  deriving DecidableEq, Repr

namespace Decimal

/-- Factors `(a, b)` that turn `x · 10 ^ ten` and `y · 2 ^ two` into `x · a` and `y · b`, both scaled
alike. -/
def scales (ten two : Int) : Nat × Nat :=
  (Nat.pow 10 ten.toNat * Nat.pow 2 (-two).toNat, Nat.pow 2 two.toNat * Nat.pow 10 (-ten).toNat)

/-- `10 ^ k ≤ m · 2 ^ p`. -/
def powerLe (k : Int) (m : Nat) (p : Int) : Bool :=
  let (a, b) := scales k p
  decide (a ≤ m * b)

/-- The place of the first digit of `m · 2 ^ p`: the greatest `k` with `10 ^ k` not above it. The
estimate from the binary logarithm is off by at most one. -/
def leadingPlace (m : Nat) (p : Int) : Int :=
  let estimate := Int.fdiv (((m.log2 : Int) + p) * 30103) 100000
  if powerLe (estimate + 1) m p then estimate + 1
  else if powerLe estimate m p then estimate
  else estimate - 1

/-- The numbers that read back as `m · 2 ^ p`, in quarters of its last place. The gap below a power
of two is half as wide. -/
def interval (m : Nat) (p : Int) : Nat × Nat :=
  (if m = Double.fullSignificand ∧ Double.leastPower < p then 4 * m - 1 else 4 * m - 2, 4 * m + 2)

/-- The nearest decimal on the grid of multiples of `10 ^ place` that reads back as `m · 2 ^ p`. -/
def onGrid? (m : Nat) (p : Int) (place : Int) : Option Nat :=
  let (a, b) := scales place (p - 2)
  let (low, high) := interval m p
  let inside (c : Nat) : Bool :=
    if m % 2 = 0 then decide (low * b ≤ c * a) && decide (c * a ≤ high * b)
    else decide (low * b < c * a) && decide (c * a < high * b)
  let value := 4 * m * b
  let below := value / a
  let above := below + 1
  match inside below && below != 0, inside above with
  | true, true =>
    let down := value - below * a
    let up := above * a - value
    if down < up ∨ (down = up ∧ below % 2 = 0) then some below else some above
  | true, false => some below
  | false, true => some above
  | false, false => none

/-- The same number without zeros at the end; `fuel` bounds how many are dropped. -/
def trim : Nat → Decimal → Decimal
  | 0, d => d
  | fuel + 1, d => if d.digits % 10 = 0 then trim fuel ⟨d.digits / 10, d.exponent + 1⟩ else d

/-- The shortest decimal that reads back as `m · 2 ^ p`, for `0 < m`. Seventeen digits are always
enough. -/
def shortest (m : Nat) (p : Int) : Decimal :=
  let lead := leadingPlace m p
  let withDigits? (n : Nat) : Option Decimal :=
    let place := lead - (n : Int)
    (onGrid? m p place).map fun c => trim 18 ⟨c, place⟩
  ((List.range 17).findSome? withDigits?).getD ⟨m, 0⟩

end Decimal

end SchemaChart
