/-
What is wrong with a text that is not JSON, and where: the line and the column count from one, the
offset from zero, all in characters.
-/
namespace SchemaChart.Json

/-- What is wrong at some place of a text. -/
inductive Problem where
  | expectedValue
  | expectedName
  | expectedColon
  | expectedComma
  | extraData
  | unterminatedString
  | invalidUnicodeEscape
  | invalidEscape
  | invalidControl
  | byteOrderMark
  /-- A string with half a surrogate pair. -/
  | loneSurrogate
  /-- A whole number of more digits than are read. -/
  | tooManyDigits (count : Nat)
  deriving DecidableEq, Repr

/-- A problem and its place. -/
structure Fault where
  problem : Problem
  line : Nat
  column : Nat
  offset : Nat
  deriving DecidableEq, Repr

/-- The most digits of a whole number. -/
def maxDigits : Nat := 4300

def Problem.message : Problem → String
  | .expectedValue => "Expecting value"
  | .expectedName => "Expecting property name enclosed in double quotes"
  | .expectedColon => "Expecting ':' delimiter"
  | .expectedComma => "Expecting ',' delimiter"
  | .extraData => "Extra data"
  | .unterminatedString => "Unterminated string starting at"
  | .invalidUnicodeEscape => "Invalid \\uXXXX escape"
  | .invalidEscape => "Invalid \\escape"
  | .invalidControl => "Invalid control character at"
  | .byteOrderMark => "Unexpected UTF-8 BOM (decode using utf-8-sig)"
  | .loneSurrogate => "Unpaired surrogate in string starting at"
  | .tooManyDigits count =>
    s!"Exceeds the limit ({maxDigits} digits) for integer string conversion: value has {count} digits; " ++
      "use sys.set_int_max_str_digits() to increase the limit"

def Fault.message (f : Fault) : String :=
  s!"{f.problem.message}: line {f.line} column {f.column} (char {f.offset})"

/-- A problem behind the characters `before`. -/
def Fault.after (before : List Char) (problem : Problem) : Fault where
  problem := problem
  line := before.count '\n' + 1
  column := (before.reverse.takeWhile (· ≠ '\n')).length + 1
  offset := before.length

end SchemaChart.Json
