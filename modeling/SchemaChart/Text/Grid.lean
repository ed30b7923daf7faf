/-
Grids of texts between bars, as rich prints them without styles since its release 14.3. Each column is as wide as its
widest text, and the title is centred above. Where the terminal has not that many columns, the widest columns of the
grid are made narrower, as long as they break their lines.
-/
import SchemaChart.Decimal.Double
import SchemaChart.Text.Terminal

namespace SchemaChart.Text

/-- A column: its head, and whether its lines are never broken. -/
structure Grid.Column where
  head : String
  noWrap : Bool
  deriving DecidableEq, Repr

/-- A title over columns, and the cells of each row. -/
structure Grid where
  title : String
  columns : List Grid.Column
  rows : List (List String)
  deriving DecidableEq, Repr

namespace Grid

/-- Where a column breaks long lines. -/
def Column.breaks (c : Column) : Text.Column.Breaks := if c.noWrap then .nowhere else .betweenWords

/-- The heads of the columns. -/
def heads (g : Grid) : List String := g.columns.map (·.head)

/-! ## Widths -/

/-- The characters of a cell that are passed on to the terminal. -/
def shown (cell : String) : List Char := Terminal.withoutControls cell.toList

/-- The width of the widest text of each column. -/
def textWidths (g : Grid) : List Nat :=
  g.rows.foldl (fun ws cells => List.zipWith max ws (cells.map fun cell => Text.Column.width (shown cell)))
    (g.heads.map fun head => Text.Column.width (shown head))

/-- The columns of a terminal that its bars leave to a grid. -/
def room (terminal : Nat) (g : Grid) : Nat := terminal - (g.columns.length + 1)

/-- Whether a column of this width can be lowered to a level. -/
def isAbove (level : Nat) (c : Column) (width : Nat) : Bool := !c.noWrap && level < width

/-- Takes an excess off the columns above a level, in equal shares, but no column below the level. -/
def lower (level : Nat) : (excess : Nat) → List (Column × Nat) → List (Column × Nat)
  | _, [] => []
  | excess, (c, width) :: rest =>
    if isAbove level c width then
      let others := rest.countP fun (c, width) => isAbove level c width
      let share := min (width - level) (roundDiv excess (others + 1))
      (c, width - share) :: lower level (excess - share) rest
    else (c, width) :: lower level excess rest

/-- What the columns have together beyond the room. -/
def excess (room : Nat) (cs : List (Column × Nat)) : Nat :=
  cs.foldl (fun total (_, width) => total + width) 0 - room

/-- The columns lowered until they fit: the widest to the next widest, then both of them to the third, and
so on to nothing. -/
def fitted (room : Nat) (cs : List (Column × Nat)) : List (Column × Nat) :=
  let breaking := (cs.filter fun (c, _) => !c.noWrap).map (·.2)
  let levels := breaking.mergeSort (fun a b => b ≤ a) ++ [0]
  levels.foldl (fun cs level => lower level (excess room cs) cs) cs

/-- The columns, each with the width that it wants, a blank on both sides of the text included. -/
def wanted (terminal : Nat) (g : Grid) : List (Column × Nat) :=
  g.columns.zip (g.textWidths.map fun width => min (width + 2) (g.room terminal))

/-- The columns of a terminal that each column gets. -/
def widths (terminal : Nat) (g : Grid) : List (Column × Nat) := fitted (g.room terminal) (g.wanted terminal)

/-! ## Cells -/

/-- The lines of a cell. There are none where the blanks on both sides leave no room. -/
def cellLines (c : Column) (width : Nat) (cell : String) : List (List Char) :=
  if width ≤ 2 then [] else Text.Column.lines c.breaks (width - 2) (shown cell)

/-- Whether a line can be cut to the room between two blanks, and at the blank behind it. -/
def canBeBoxed (breaks : Text.Column.Breaks) (room : Nat) (line : List Char) : Bool :=
  Text.Column.canBeCut breaks room line && Text.Column.hasPlace (room + 1) (Text.Column.cut breaks room line)

/-- Whether a cell can be set in its column. -/
def canBeSet (c : Column) (width : Nat) (cell : String) : Bool :=
  width ≤ 2 || (Text.Column.brokenLines c.breaks (width - 2) (shown cell)).all (canBeBoxed c.breaks (width - 2))

def spaces (n : Nat) : String := String.ofList (List.replicate n ' ')

/-- A line of a cell in its column, with a blank on both sides, as far as the line leaves room for one. -/
def boxed (width : Nat) : Option (List Char) → String
  | none => spaces width
  | some line =>
    let line := Text.Column.padded (width - 2) line
    " " ++ String.ofList line ++ spaces (width - 1 - cells line)

/-! ## Lines -/

/-- The lines of a row of cells between bars. -/
def rowLines (left middle right : String) (ws : List (Column × Nat)) (row : List String) : List String :=
  let texts := List.zipWith (fun (c, w) cell => cellLines c w cell) ws row
  let height := (texts.map (·.length)).foldl max 1
  (List.range height).map fun i =>
    let parts := List.zipWith (fun (_, w) (lines : List (List Char)) => boxed w lines[i]?) ws texts
    left ++ middle.intercalate parts ++ right

/-- A ruled line. -/
def rule (left fill middle right : String) (ws : List (Column × Nat)) : String :=
  left ++ middle.intercalate (ws.map fun (_, w) => "".intercalate (List.replicate w fill)) ++ right

/-- A text in the middle of `total` columns, rather to the left. -/
def centred (total : Nat) (s : List Char) : String :=
  let spare := total - cells s
  spaces (spare / 2) ++ String.ofList s ++ spaces (spare - spare / 2)

/-- The lines of a grid under its title. -/
def lines (g : Grid) (ws : List (Column × Nat)) : List String :=
  let total := ws.foldl (fun total (_, w) => total + (w + 1)) 1
  let titles := (Text.Column.lines .anywhere total g.title.toList).map fun line => centred total (trimEnd line)
  titles ++ rule "┏" "━" "┳" "┓" ws :: rowLines "┃" "┃" "┃" ws g.heads ++
    rule "┡" "━" "╇" "┩" ws :: g.rows.flatMap (rowLines "│" "│" "│" ws) ++ [rule "└" "─" "┴" "┘" ws]

/-- The text of a grid on a terminal of so many columns; none if it has a cell that cannot be set in its column. -/
def text? (terminal : Nat) (g : Grid) : Option String :=
  let ws := g.widths terminal
  if (g.heads :: g.rows).all fun row => (ws.zip row).all fun ((c, w), cell) => canBeSet c w cell then
    some ("\n".intercalate (g.lines ws))
  else none

end Grid

end SchemaChart.Text
