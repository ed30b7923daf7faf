/-
Texts on their way to a terminal, as rich since its release 14.3 and release 8 of click bring them there. A text inside
a message of rich passes through markup: words in brackets that begin with a small letter or one of `#`, `/` and `@` are
tags and stay as they are; in front of any other opening bracket a backslash is taken for an escape and dropped, a
single backslash at the end is doubled, and codes for emoji are replaced, though none that reaches across the edge of a
tag. Of the message, control characters that a terminal would act on are left out, tabs are filled up, and lines that
are wider than the terminal are broken. What click prints where no terminal reads along has no control sequences.
-/
import SchemaChart.Text.Column
import SchemaChart.Text.Emoji

namespace SchemaChart.Text.Terminal

/-- Whether a control character is passed on. -/
def isPassed (c : Char) : Bool := !([0x07, 0x08, 0x0b, 0x0c, 0x0d].contains c.toNat)

/-- The text without control characters that a terminal would act on. -/
def withoutControls (s : List Char) : List Char := s.filter isPassed

/-! ## Tags -/

/-- Whether a tag begins with this character. -/
def opensTag (c : Char) : Bool := ('a' ≤ c && c ≤ 'z') || c == '#' || c == '/' || c == '@'

/-- The number of characters of the tag at the beginning; zero if there is none. -/
def tagLength : List Char → Nat
  | '[' :: c :: rest =>
    let word := rest.takeWhile fun d => d != '[' && d != ']'
    if opensTag c && (rest.drop word.length).head? == some ']' then word.length + 3 else 0
  | _ => 0

/-- Pieces with a character in front of the first. -/
def extend (c : Char) : List (List Char) → List (List Char)
  | [] => [[c]]
  | piece :: others => (c :: piece) :: others

/-- The text cut in front of and behind each tag; the first `inside` characters belong to a tag. -/
def cutTags : (inside : Nat) → List Char → List (List Char)
  | _, [] => [[]]
  | 0, c :: rest =>
    match tagLength (c :: rest) with
    | 0 => extend c (cutTags 0 rest)
    | length + 1 => [] :: extend c (cutTags length rest)
  | 1, c :: rest => [c] :: cutTags 0 rest
  | inside + 2, c :: rest => extend c (cutTags (inside + 1) rest)

/-! ## Escapes -/

/-- The text without a backslash in front of a bracket. -/
def dropEscapes : List Char → List Char
  | '\\' :: '[' :: rest => '[' :: dropEscapes rest
  | c :: rest => c :: dropEscapes rest
  | [] => []

/-- The text with a single backslash at the end doubled. -/
def doubleLast (s : List Char) : List Char :=
  match s.reverse with
  | '\\' :: '\\' :: _ => s
  | '\\' :: _ => s ++ ['\\']
  | _ => s

/-! ## Control sequences -/

/-- The number of characters of the control sequence at the beginning; zero if there is none. -/
def sequenceLength : List Char → Nat
  | '\x1b' :: '[' :: rest =>
    let codes := rest.takeWhile fun c => c.isDigit || c == ';' || c == '?'
    if (rest.drop codes.length).head?.any Char.isAlpha then codes.length + 3 else 0
  | _ => 0

/-- The text without control sequences, where `skip` characters still belong to one. -/
def dropSequences : (skip : Nat) → List Char → List Char
  | _, [] => []
  | skip + 1, _ :: rest => dropSequences skip rest
  | 0, c :: rest =>
    match sequenceLength (c :: rest) with
    | 0 => c :: dropSequences 0 rest
    | length + 1 => dropSequences length rest

/-- A text as it is printed where no terminal reads along. -/
def withoutSequences (s : String) : String := String.ofList (dropSequences 0 s.toList)

/-! ## Messages -/

/-- A text inside a message. -/
def shown (s : String) : String :=
  String.ofList ((cutTags 0 (doubleLast s.toList)).flatMap fun piece => Emoji.replaceCodes (dropEscapes piece))

/-- A whole message on a terminal of so many columns; none if one of its lines cannot be cut to them. -/
def line? (columns : Nat) (s : String) : Option String :=
  let s := withoutControls s.toList
  if Column.canBeSet .anywhere columns s then
    some (String.ofList (['\n'].intercalate (Column.lines .anywhere columns s)))
  else none

end SchemaChart.Text.Terminal
