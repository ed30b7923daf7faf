/-
Quoted text as it stands in messages: between single quotes, or between double quotes if the text has
a single quote and no double one. The closing quote and the backslash are escaped, line feeds, carriage
returns and tabs have letters, and any other unprintable character is written by its code point in two,
four or eight hexadecimal digits.
-/
import SchemaChart.Text.Basic
import SchemaChart.Text.Printable

namespace SchemaChart.Text

/-- The single quote. -/
def singleQuote : Char := '\x27'

/-- The double quote. -/
def doubleQuote : Char := '\x22'

/-- The quote that needs the fewer escapes; the single one unless only the double one is free. -/
def quoteFor (s : List Char) : Char :=
  if singleQuote ∈ s ∧ doubleQuote ∉ s then doubleQuote else singleQuote

/-- A character between quotes of the given kind. -/
def escape (quote : Char) (c : Char) : List Char :=
  if c = quote ∨ c = '\\' then ['\\', c]
  else if c = '\n' then ['\\', 'n']
  else if c = '\r' then ['\\', 'r']
  else if c = '\t' then ['\\', 't']
  else if isPrintable c then [c]
  else if c.toNat < 0x100 then '\\' :: 'x' :: hexCode 2 c.toNat
  else if c.toNat < 0x10000 then '\\' :: 'u' :: hexCode 4 c.toNat
  else '\\' :: 'U' :: hexCode 8 c.toNat

/-- The text between quotes. -/
def quoted (s : String) : String :=
  let cs := s.toList
  let q := quoteFor cs
  String.ofList (q :: cs.flatMap (escape q) ++ [q])

end SchemaChart.Text
