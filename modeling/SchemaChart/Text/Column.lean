/-
Text in a column on a terminal, as rich sets it since its release 14.3. A line that is too wide is broken in front of
each word that does not fit behind the words before it; a word wider than the column is broken as well, or else cut so
that it ends in an ellipsis. A text is measured as it stands, with its tabs not yet filled up and a line end at every
character that Unicode counts as one, so that a line can be wider than a column made to measure. A line that begins with
two joiners may have no place to be cut at (`hasPlace`); then the text cannot be set.
-/
import SchemaChart.Text.Basic
import SchemaChart.Text.CellWidth

namespace SchemaChart.Text.Column

/-! ## Tabs -/

/-- A line from a column on, given by the texts between its tabs. A tab is a blank at least, which counts
together with the text in front of it, and leads to the next multiple of eight columns. -/
def fillTabs (column : Nat) : List (List Char) → List Char
  | [] => []
  | [last] => last
  | text :: rest =>
    let reached := column + cells (text ++ [' '])
    let spare := (8 - reached % 8) % 8
    text ++ ' ' :: List.replicate spare ' ' ++ fillTabs (reached + spare) rest

/-- A line with its tabs filled up. -/
def expandTabs (line : List Char) : List Char := fillTabs 0 (pieces (· == '\t') line)

/-! ## Lines and words -/

/-- The characters that end a line in Unicode. -/
def isLineEnd (c : Char) : Bool :=
  [0x0a, 0x0b, 0x0c, 0x0d, 0x1c, 0x1d, 0x1e, 0x85, 0x2028, 0x2029].contains c.toNat

/-- The columns of the widest line of a text. -/
def width (s : List Char) : Nat := ((pieces isLineEnd s).map cells).foldl max 0

/-- A line taken apart behind each run of blanks. -/
def runs : List Char → List (List Char)
  | [] => []
  | c :: rest =>
    match runs rest with
    | [] => [[c]]
    | run :: others =>
      if isBlank c && !(run.head?.any isBlank) then [c] :: run :: others else (c :: run) :: others

/-- The words of a line, each with the blanks behind it, and the first also with those in front of it. -/
def words (line : List Char) : List (List Char) :=
  match runs line with
  | first :: second :: others =>
    if first.all isBlank then (first ++ second) :: others else first :: second :: others
  | short => short

/-! ## Breaking -/

/-- Where a long line may be broken. -/
inductive Breaks where
  | nowhere
  | betweenWords
  | anywhere
  deriving DecidableEq, Repr

/-- Lines with a text in front of the first. -/
def prepend (text : List Char) : List (List Char) → List (List Char)
  | [] => [text]
  | line :: others => (text ++ line) :: others

/-- The lines of a word that is wider than a line, of which `used` columns are taken. -/
def chop (width : Nat) : (used : Nat) → List Cluster → List (List Char)
  | _, [] => [[]]
  | used, k :: rest =>
    if used + k.width ≤ width then prepend k.chars (chop width (used + k.width) rest)
    else [] :: prepend k.chars (chop width k.width rest)

/-- The lines of words, of which the first has `used` columns taken already. -/
def fill (breaks : Breaks) (width : Nat) : (used : Nat) → List (List Char) → List (List Char)
  | _, [] => [[]]
  | used, word :: rest =>
    let needed := cells (trimEnd word)
    if used + needed ≤ width then prepend word (fill breaks width (used + cells word) rest)
    else if breaks = .anywhere ∧ width < needed then
      let parts := chop width 0 (clusters word)
      let last := parts.getLast?.getD []
      [] :: (parts.dropLast ++ prepend last (fill breaks width (cells last) rest))
    else [] :: prepend word (fill breaks width (cells word) rest)

/-- A line without blanks at its end as far as they make it longer than the column. -/
def withoutOverhang (width : Nat) (s : List Char) : List Char :=
  s.take (s.length - min (s.length - width) (s.length - (trimEnd s).length))

/-- The lines that a line is broken into. No line is left in front of a first word that does not fit. A
line that is kept whole also keeps the blanks at its end. -/
def broken (breaks : Breaks) (width : Nat) (line : List Char) : List (List Char) :=
  if breaks = .nowhere then [line]
  else
    let lines :=
      match fill breaks width 0 (words line) with
      | [] :: second :: others => second :: others
      | lines => lines
    lines.map (withoutOverhang width)

/-! ## Cutting -/

/-- The clusters at the beginning up to a column. A blank stands for the half of a wide one. -/
def upTo : (width : Nat) → List Cluster → List Char
  | 0, _ => []
  | _, [] => []
  | width + 1, k :: rest =>
    if k.width ≤ width + 1 then k.chars ++ upTo (width + 1 - k.width) rest else [' ']

/-- The column at which a line that is too wide is cut. What can be broken anywhere needs no ellipsis. -/
def cutPlace (breaks : Breaks) (width : Nat) : Nat := if breaks = .anywhere then width else width - 1

/-- A line cut to the width of a column. -/
def cut (breaks : Breaks) (width : Nat) (s : List Char) : List Char :=
  if cells s ≤ width then s
  else upTo (cutPlace breaks width) (clusters s) ++ if breaks = .anywhere then [] else ['…']

/-! ## Texts in a column -/

/-- The lines of a text as they are broken. -/
def brokenLines (breaks : Breaks) (width : Nat) (s : List Char) : List (List Char) :=
  (pieces (· == '\n') s).flatMap fun line => broken breaks width (expandTabs line)

/-- The lines of a text in a column. -/
def lines (breaks : Breaks) (width : Nat) (s : List Char) : List (List Char) :=
  (brokenLines breaks width s).map (cut breaks width)

/-- Whether there is a place to cut a text at a column. Where two joiners begin a text, the first hides the
second when the text is measured, while its clusters begin with the first alone and the second hides the
character behind it; so the clusters can end in front of a column that the text goes beyond. -/
def hasPlace (column : Nat) (s : List Char) : Bool :=
  cells s ≤ column || column ≤ (clusters s).foldl (fun total k => total + k.width) 0

/-- Whether a line can be cut to a width, and then, where it is still too wide, once more at the same column. -/
def canBeCut (breaks : Breaks) (width : Nat) (line : List Char) : Bool :=
  (cells line ≤ width || hasPlace (cutPlace breaks width) line) && hasPlace width (cut breaks width line)

/-- Whether each line of a text can be cut to a width. -/
def canBeSet (breaks : Breaks) (width : Nat) (s : List Char) : Bool :=
  (brokenLines breaks width s).all (canBeCut breaks width)

/-- A line with blanks behind it up to the width of a column. A joiner at the end of the line hides the
first blank, so the blanks are counted again behind those that seemed to be missing. -/
def padded (width : Nat) (line : List Char) : List Char :=
  let line := line ++ List.replicate (width - cells line) ' '
  line ++ List.replicate (width - cells line) ' '

end SchemaChart.Text.Column
