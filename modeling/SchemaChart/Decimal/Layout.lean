/-
How a double is written out: the choice between positional and exponent form, the mark of a whole
value, the width of an exponent, and the words for infinity and for no number. The digits are those
of `Decimal.shortest`.
-/
import SchemaChart.Decimal.Shortest

namespace SchemaChart

/-- The decisions in writing a double. The place of the first digit decides the form. -/
structure Decimal.Layout where
  /-- The least place written positionally. -/
  positionalFrom : Int
  /-- The first place that is no longer written positionally. -/
  positionalBelow : Int
  /-- What follows a whole value in positional form. -/
  wholeSuffix : String
  exponentMark : String
  plus : String
  minus : String
  /-- The least number of digits of an exponent. -/
  exponentWidth : Nat
  infinity : String
  nan : String

namespace Decimal.Layout

def zeros (n : Nat) : String := String.ofList (List.replicate n '0')

def exponentText (l : Layout) (place : Int) : String :=
  let digits := toString place.natAbs
  let sign := if place < 0 then l.minus else l.plus
  l.exponentMark ++ sign ++ zeros (l.exponentWidth - digits.length) ++ digits

/-- A positive number whose digits are `digits`, the first at `place`. -/
def positive (l : Layout) (digits : List Char) (place : Int) : String :=
  let text := String.ofList digits
  let count := digits.length
  if l.positionalFrom ≤ place ∧ place < l.positionalBelow then
    if place < 0 then "0." ++ zeros ((-place).toNat - 1) ++ text
    else
      let whole := place.toNat + 1
      if count ≤ whole then text ++ zeros (whole - count) ++ l.wholeSuffix
      else String.ofList (digits.take whole) ++ "." ++ String.ofList (digits.drop whole)
  else
    match digits with
    | [d] => String.ofList [d] ++ l.exponentText place
    | d :: rest => String.ofList [d] ++ "." ++ String.ofList rest ++ l.exponentText place
    | [] => text

/-- A double in this layout. -/
def write (l : Layout) : Double → String
  | .nan => l.nan
  | .infinite negative => (if negative then l.minus else "") ++ l.infinity
  | .finite negative m p =>
    let sign := if negative then l.minus else ""
    if m = 0 then sign ++ "0" ++ l.wholeSuffix
    else
      let d := Decimal.shortest m p
      let digits := Nat.toDigits 10 d.digits
      sign ++ l.positive digits (d.exponent + (digits.length : Int) - 1)

end Decimal.Layout

end SchemaChart
