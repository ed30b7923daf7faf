/-
Texts as lists of characters: white space, pieces between single characters, hexadecimal digits, and words for truth
values. White space are the separators of Unicode and the control characters that break lines or move the cursor; a
zero-width space or a byte order mark is not white space.
-/
namespace SchemaChart.Text

/-! ## White space -/

/-- The code points of white space. -/
def blankCodes : List Nat :=
  [0x09, 0x0a, 0x0b, 0x0c, 0x0d, 0x1c, 0x1d, 0x1e, 0x1f, 0x20, 0x85, 0xa0, 0x1680, 0x2000, 0x2001, 0x2002,
    0x2003, 0x2004, 0x2005, 0x2006, 0x2007, 0x2008, 0x2009, 0x200a, 0x2028, 0x2029, 0x202f, 0x205f, 0x3000]

def isBlank (c : Char) : Bool := blankCodes.contains c.toNat

/-- Whether a text holds nothing but white space. -/
def isBlankText (s : String) : Bool := s.toList.all isBlank

/-- The text without white space at its end. -/
def trimEnd (s : List Char) : List Char := (s.reverse.dropWhile isBlank).reverse

/-! ## Pieces -/

/-- The texts between the characters that break a text. Every text has a piece. -/
def pieces (isBreak : Char → Bool) : List Char → List (List Char)
  | [] => [[]]
  | c :: rest =>
    match pieces isBreak rest with
    | [] => [[c]]
    | first :: others => if isBreak c then [] :: first :: others else (c :: first) :: others

/-! ## Hexadecimal digits -/

/-- The value of a hexadecimal digit. -/
def hexDigit? (c : Char) : Option Nat :=
  if c.isDigit then some (c.toNat - '0'.toNat)
  else if 'a' ≤ c ∧ c ≤ 'f' then some (c.toNat - 'a'.toNat + 10)
  else if 'A' ≤ c ∧ c ≤ 'F' then some (c.toNat - 'A'.toNat + 10)
  else none

/-- The number that hexadecimal digits write; any other character counts as zero. -/
def hexNumber (digits : List Char) : Nat := digits.foldl (fun n c => n * 16 + (hexDigit? c).getD 0) 0

/-- A number in lower-case hexadecimal, with zeros in front up to `width` digits. -/
def hexCode (width : Nat) (n : Nat) : List Char :=
  let digits := Nat.toDigits 16 n
  List.replicate (width - digits.length) '0' ++ digits

/-! ## Truth values -/

def trueWords : List String := ["1", "on", "t", "true", "y", "yes"]

def falseWords : List String := ["0", "off", "f", "false", "n", "no"]

/-- The truth value that a text reads as, in any mixture of small and capital ASCII letters, without blanks. -/
def truth? (s : String) : Option Bool :=
  let lower := s.toLower
  if trueWords.contains lower then some true
  else if falseWords.contains lower then some false
  else none

end SchemaChart.Text
