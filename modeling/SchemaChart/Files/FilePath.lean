/-
File paths. A path is a root and names; empty names and single dots between slashes add nothing, two dots
are kept. Exactly two slashes in front are a root of their own.
-/
import SchemaChart.Text.Basic

namespace SchemaChart

/-- A file path. The root is empty for a path that starts in the working directory. -/
structure FilePath where
  root : String
  parts : List String
  deriving DecidableEq, Repr

namespace FilePath

/-- The root that a text of a path begins with. -/
def rootOf (cs : List Char) : String :=
  match (cs.takeWhile (· == '/')).length with
  | 0 => ""
  | 2 => "//"
  | _ => "/"

/-- The path that a text stands for. -/
def ofText (text : String) : FilePath where
  root := rootOf text.toList
  parts := ((Text.pieces (· == '/') text.toList).map String.ofList).filter fun p => p != "" && p != "."

/-- The text of a path; a single dot for the working directory. -/
def text (p : FilePath) : String :=
  if p.root = "" ∧ p.parts = [] then "." else p.root ++ "/".intercalate p.parts

end FilePath

end SchemaChart
