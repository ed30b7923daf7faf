/-
Files of variables, as release 1 of dotenv reads them. Each line binds a name, which may follow the word `export` and
may be quoted, to a value behind an equals sign: in single or double quotes, where it may run over several lines and has
escapes, or bare up to the end of the line or to a number sign behind a blank. A quote that is never closed spoils its
line alone, and a line that is none of this is passed over. In a value, `${name}` stands for the value of another
variable, and `${name:-text}` for `text` if there is none. A run reads files of variables through its platform, and no
result rests on this reading of them.
-/
import SchemaChart.Dictionary
import SchemaChart.Text.Basic

namespace SchemaChart.EnvFile

/-- A blank within a line. -/
def isInlineBlank (c : Char) : Bool := Text.isBlank c && c != '\n' && c != '\r'

def skipInline (s : List Char) : List Char := s.dropWhile isInlineBlank

/-- What follows the current line. -/
def nextLine (s : List Char) : List Char := (s.dropWhile (· ≠ '\n')).drop 1

/-! ## Names -/

/-- The text behind the word `export`, if it stands there with a blank. -/
def skipExport (s : List Char) : List Char :=
  let word := "export".toList
  if word.isPrefixOf s && (s.drop word.length).head?.any isInlineBlank then skipInline (s.drop word.length)
  else s

/-- A name at the beginning, and what is left; a comment has no name. -/
def name? (s : List Char) : Option (Option String × List Char) :=
  match s with
  | '#' :: _ => some (none, s)
  | '\x27' :: r =>
    let name := r.takeWhile (· ≠ '\x27')
    let left := r.dropWhile (· ≠ '\x27')
    if name = [] ∨ left = [] then none else some (some (String.ofList name), left.drop 1)
  | _ =>
    let isName (c : Char) : Bool := c ≠ '=' && c ≠ '#' && !Text.isBlank c
    let name := s.takeWhile isName
    if name = [] then none else some (some (String.ofList name), s.dropWhile isName)

/-! ## Values -/

/-- The text behind an opening quote up to its closing quote, and what is left. A backslash takes the
character behind it with it, even a quote or a backslash. -/
def toQuote? (quote : Char) : List Char → Option (List Char × List Char)
  | [] => none
  | '\\' :: c :: r => (toQuote? quote r).map fun (text, left) => ('\\' :: c :: text, left)
  | c :: r =>
    if c = quote then some ([], r) else (toQuote? quote r).map fun (text, left) => (c :: text, left)

/-- Escapes in double quotes. -/
def doubleEscapes : List (Char × Char) :=
  [('\\', '\\'), ('\x27', '\x27'), ('\x22', '\x22'), ('a', '\x07'), ('b', '\x08'), ('f', '\x0c'), ('n', '\n'),
    ('r', '\r'), ('t', '\t'), ('v', '\x0b')]

/-- Escapes in single quotes. -/
def singleEscapes : List (Char × Char) := [('\\', '\\'), ('\x27', '\x27')]

/-- The text with its escapes replaced. -/
def unescape (escapes : List (Char × Char)) : List Char → List Char
  | '\\' :: c :: r =>
    match escapes.lookup c with
    | some d => d :: unescape escapes r
    | none => '\\' :: unescape escapes (c :: r)
  | c :: r => c :: unescape escapes r
  | [] => []

/-- The text before a comment, which begins with a number sign behind blanks. -/
def beforeComment : List Char → List Char
  | [] => []
  | c :: r =>
    if Text.isBlank c && (r.dropWhile Text.isBlank).head? == some '#' then [] else c :: beforeComment r

/-- A bare value: the text before a comment, without blanks at both ends. -/
def bareValue (s : List Char) : List Char := Text.trimEnd ((beforeComment s).dropWhile Text.isBlank)

/-- The value behind an equals sign, and what is left. A bare value begins right behind the sign, so that
a number sign behind blanks there leaves it empty. -/
def value? (s : List Char) : Option (List Char × List Char) :=
  match skipInline s with
  | '\x27' :: r => (toQuote? '\x27' r).map fun (text, left) => (unescape singleEscapes text, left)
  | '\x22' :: r => (toQuote? '\x22' r).map fun (text, left) => (unescape doubleEscapes text, left)
  | _ => some (bareValue (s.takeWhile (· ≠ '\n')), s.dropWhile (· ≠ '\n'))

/-! ## Bindings -/

/-- What follows the current line, if nothing but blanks and a comment is left of it. -/
def endOfLine? (s : List Char) : Option (List Char) :=
  match skipInline s with
  | [] => some []
  | '\n' :: r => some r
  | '#' :: r => some (nextLine r)
  | _ => none

/-- A name and its value; a name without an equals sign has none. -/
abbrev Binding := String × Option (List Char)

/-- The binding at the end of which only a comment may stand, or nothing and the next line. -/
def closed (name : Option String) (value : Option (List Char)) (s : List Char) : Option Binding × List Char :=
  match endOfLine? s with
  | some left => (name.map fun n => (n, value), left)
  | none => (none, nextLine s)

/-- The binding in the next lines, if they hold one, and what follows them. -/
def binding (s : List Char) : Option Binding × List Char :=
  let s := skipExport (s.dropWhile Text.isBlank)
  match name? s with
  | none => (none, nextLine s)
  | some (name, left) =>
    match skipInline left with
    | '=' :: r =>
      match value? r with
      | none => (none, nextLine r)
      | some (value, left) => closed name (some value) left
    | left => closed name none left

/-- All bindings, in order. -/
def bindings (s : List Char) : List Binding :=
  match s with
  | [] => []
  | c :: r =>
    let found := binding (c :: r)
    if _ : found.2.length < (c :: r).length then found.1.toList ++ bindings found.2 else found.1.toList
  termination_by s.length
  decreasing_by assumption

/-! ## References to variables -/

/-- A reference at the beginning: the variable, the text for want of it, and the number of characters. -/
def reference? (s : List Char) : Option (List Char × List Char × Nat) :=
  match s with
  | '$' :: '\x7b' :: r =>
    let name := r.takeWhile fun c => c ≠ '\x7d' && c ≠ ':'
    match r.drop name.length with
    | '\x7d' :: _ => some (name, [], name.length + 3)
    | ':' :: '-' :: t =>
      let text := t.takeWhile (· ≠ '\x7d')
      if t.drop text.length = [] then none else some (name, text, name.length + text.length + 5)
    | _ => none
  | _ => none

/-- The text with all references replaced, where `skip` characters still belong to one. -/
def expand (lookup : String → Option (List Char)) : (skip : Nat) → List Char → List Char
  | _, [] => []
  | skip + 1, _ :: r => expand lookup skip r
  | 0, c :: r =>
    match reference? (c :: r) with
    | some (name, text, length) =>
      (lookup (String.ofList name)).getD text ++ expand lookup (length - 1) r
    | none => c :: expand lookup 0 r

/-- The variables of bindings. A value may refer to variables bound before it and, for want of them, to
those of the surroundings. -/
def resolve (surroundings : List (String × String)) (bs : List Binding) : Dictionary (Option String) :=
  bs.foldl
    (fun known (name, value) =>
      let lookup (n : String) : Option (List Char) :=
        match known.lookup n with
        | some v => some ((v.map (·.toList)).getD [])
        | none => (surroundings.lookup n).map (·.toList)
      known.put name (value.map fun v => String.ofList (expand lookup 0 v)))
    []

/-- The text of a file without the byte order mark that it may begin with. -/
def withoutMark : List Char → List Char
  | '\ufeff' :: r => r
  | s => s

/-- The variables in the text of a file. -/
def read (surroundings : List (String × String)) (text : String) : Dictionary (Option String) :=
  resolve surroundings (bindings (withoutMark text.toList))

end SchemaChart.EnvFile
