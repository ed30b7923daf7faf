/-
A JSON value as it stands in messages: quoted text, capitalised words for null and the truth values,
the shortest decimal of a double, brackets and braces around items and members.
-/
import SchemaChart.Json.Basic
import SchemaChart.Decimal.Layout
import SchemaChart.Text.Quoted

namespace SchemaChart

/-- Doubles are positional from `0.0001` up to below `10 ^ 16`; whole values end in `.0`, exponents have
a sign and at least two digits. -/
def Json.realLayout : Decimal.Layout where
  positionalFrom := -4
  positionalBelow := 16
  wholeSuffix := ".0"
  exponentMark := "e"
  plus := "+"
  minus := "-"
  exponentWidth := 2
  infinity := "inf"
  nan := "nan"

namespace Json

mutual

/-- The value as it stands in messages. -/
def display : Json → String
  | .null => "None"
  | .bool true => "True"
  | .bool false => "False"
  | .int n => toString n
  | .real x => realLayout.write x
  | .str s => Text.quoted s
  | .arr items => "[" ++ ", ".intercalate (displayItems items) ++ "]"
  | .obj members => "\x7b" ++ ", ".intercalate (displayMembers members) ++ "\x7d"

def displayItems : List Json → List String
  | [] => []
  | v :: rest => display v :: displayItems rest

def displayMembers : List (String × Json) → List String
  | [] => []
  | (name, v) :: rest => (Text.quoted name ++ ": " ++ display v) :: displayMembers rest

end

end Json

end SchemaChart
