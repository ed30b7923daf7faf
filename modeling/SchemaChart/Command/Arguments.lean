/-
The command line, as release 8 of click and typer on top of it read it. The first word is a command; options and the
schema file follow in any order. An option that takes a value takes the rest of its word, or else the next word whatever
it is; the last use of an option counts. Behind two dashes nothing is an option. A file cannot have a NUL in its name. A
run reads its command line through its platform, and no result rests on this reading.
-/
namespace SchemaChart.Command

/-- What is asked for. -/
inductive Request where
  | generate (schema : Option String) (output : Option String) (fence : Option Bool)
  | showSchema (schema : Option String)
  deriving DecidableEq, Repr

/-- What a command line is. -/
inductive Invocation where
  | request (request : Request)
  | help
  | misuse
  deriving DecidableEq, Repr

/-- Options and other words read so far. -/
structure Reading where
  output : Option String
  fence : Option Bool
  help : Bool
  words : List String
  deriving DecidableEq, Repr

def Reading.empty : Reading := ⟨none, none, false, []⟩

/-- The kinds of words on a command line. -/
inductive Word where
  | plain (text : String)
  | separator
  /-- The option for the output, and its value if that stands in the same word. -/
  | output (value : Option String)
  | fence (on : Bool)
  | help
  | unknown
  deriving DecidableEq, Repr

/-- A text split at its first equals sign. -/
def splitEquals (s : List Char) : List Char × Option (List Char) :=
  let name := s.takeWhile (· ≠ '=')
  match s.drop name.length with
  | [] => (name, none)
  | _ :: value => (name, some value)

/-- The kind of a word on the line of a command with or without options of its own. -/
def Word.ofText (hasOptions : Bool) (text : String) : Word :=
  match text.toList with
  | ['-', '-'] => .separator
  | '-' :: '-' :: rest =>
    match splitEquals rest with
    | (name, value) =>
      match String.ofList name, value, hasOptions with
      | "help", none, _ => .help
      | "output", v, true => .output (v.map String.ofList)
      | "fence", none, true => .fence true
      | "no-fence", none, true => .fence false
      | _, _, _ => .unknown
  | ['-', 'o'] => if hasOptions then .output none else .unknown
  | '-' :: 'o' :: value => if hasOptions then .output (some (String.ofList value)) else .unknown
  | '-' :: _ :: _ => .unknown
  | _ => .plain text

/-- Reads words; nothing if one of them is out of place. -/
def readWords (hasOptions : Bool) (sofar : Reading) : List String → Option Reading
  | [] => some sofar
  | text :: rest =>
    match Word.ofText hasOptions text with
    | .plain word => readWords hasOptions { sofar with words := sofar.words ++ [word] } rest
    | .separator => some { sofar with words := sofar.words ++ rest }
    | .output (some value) => readWords hasOptions { sofar with output := some value } rest
    | .output none =>
      match rest with
      | value :: rest => readWords hasOptions { sofar with output := some value } rest
      | [] => none
    | .fence on => readWords hasOptions { sofar with fence := some on } rest
    | .help => readWords hasOptions { sofar with help := true } rest
    | .unknown => none

/-- Whether a text can be the name of a file. -/
def isFileName (text : String) : Bool := !text.toList.contains '\x00'

/-- The invocation of a command with the given words, of which one at most stands for itself. -/
def invoke (hasOptions : Bool) (make : Option String → Reading → Request) (words : List String) : Invocation :=
  match readWords hasOptions .empty words with
  | none => .misuse
  | some r =>
    if r.help then .help
    else if r.words.length ≤ 1 ∧ (r.words ++ r.output.toList).all isFileName then .request (make r.words.head? r)
    else .misuse

/-- The invocation that begins with the name of a command. -/
def Invocation.ofCommand : List String → Invocation
  | "generate" :: rest => invoke true (fun schema r => .generate schema r.output r.fence) rest
  | "show-schema" :: rest => invoke false (fun schema _ => .showSchema schema) rest
  | _ => .misuse

/-- What a command line asks for. In front of the command stand only requests for help, and two dashes
before a command are skipped. -/
def Invocation.ofArguments (arguments : List String) : Invocation :=
  let rest := arguments.dropWhile (· == "--help")
  if rest.head?.any fun word => Word.ofText false word == .unknown then .misuse
  else if rest.length < arguments.length then .help
  else
    match rest with
    | "--" :: command => .ofCommand command
    | command => .ofCommand command

end SchemaChart.Command
