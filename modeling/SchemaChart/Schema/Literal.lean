/-
Literal values as they stand in a diagram: as in JSON, but texts without their quotes, and a double of
whole value by its digits alone.
-/
import SchemaChart.Schema.Basic
import SchemaChart.Json.Display

namespace SchemaChart

/-- The literal as it stands in a diagram. -/
def Literal.text : Literal → String
  | .bool true => "true"
  | .bool false => "false"
  | .int n => toString n
  | .real x =>
    match x.toInt? with
    | some n => toString n
    | none => Json.realLayout.write x
  | .str s => s

/-- The scalar that a value is, if it is one. -/
def Literal.ofJson? : Json → Option Literal
  | .bool b => some (.bool b)
  | .int n => some (.int n)
  | .real x => some (.real x)
  | .str s => some (.str s)
  | _ => none

/-- A value as it stands in a diagram. What is no scalar stands as in messages. -/
def Json.literalText (v : Json) : String :=
  match Literal.ofJson? v with
  | some l => l.text
  | none => v.display

end SchemaChart
