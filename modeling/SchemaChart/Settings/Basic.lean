/-
Settings: the default schema file, whether flowcharts are fenced, and the log level. They come from
variables, and for want of a variable from the file `.env`; their names count without regard to case.
-/
import SchemaChart.Schema.Source

namespace SchemaChart

/-! ## Capital letters -/

namespace Text

/-- Characters beyond ASCII whose upper case is made of the letters A to Z. -/
def latinCapitals : List (Nat × String) :=
  [(0xdf, "SS"), (0x131, "I"), (0x17f, "S"), (0xfb00, "FF"), (0xfb01, "FI"), (0xfb02, "FL"), (0xfb03, "FFI"),
    (0xfb04, "FFL"), (0xfb05, "ST"), (0xfb06, "ST")]

/-- The upper case of a character as far as it is written with A to Z; any other character is left. -/
def capital (c : Char) : List Char :=
  match latinCapitals.lookup c.toNat with
  | some s => s.toList
  | none => [c.toUpper]

/-- The text in capital letters. It is `t`, for a `t` of the letters A to Z, exactly when the upper case of the text
is `t`. -/
def capitals (s : String) : String := String.ofList (s.toList.flatMap capital)

end Text

/-! ## Log levels -/

/-- The log levels, two of which have a second name. -/
inductive LogLevel where
  | critical
  | fatal
  | error
  | warn
  | warning
  | info
  | debug
  | notset
  deriving DecidableEq, Repr

namespace LogLevel

def all : List LogLevel := [.critical, .fatal, .error, .warn, .warning, .info, .debug, .notset]

def name : LogLevel → String
  | .critical => "CRITICAL"
  | .fatal => "FATAL"
  | .error => "ERROR"
  | .warn => "WARN"
  | .warning => "WARNING"
  | .info => "INFO"
  | .debug => "DEBUG"
  | .notset => "NOTSET"

/-- The level that a text names in any case. -/
def ofText? (s : String) : Option LogLevel := all.find? (·.name == Text.capitals s)

end LogLevel

/-! ## Settings -/

/-- The settings of the program. -/
structure Settings where
  schemaPath : Option FilePath
  fence : Bool
  logLevel : LogLevel
  deriving DecidableEq, Repr

/-- Variables and their values. -/
abbrev Environment := List (String × String)

/-- Variables of a file, some of them named without a value. -/
abbrev FileVariables := List (String × Option String)

namespace Settings

/-- The settings without any variable. -/
def default : Settings := ⟨none, false, .warning⟩

/-! ## Variables -/

/-- What the names of all variables begin with. -/
def namePrefix : String := "schema_mermaid_"

/-- What the last variable of a name holds; the name is given in small letters. -/
def lastOf? {α : Type} (vs : List (String × α)) (name : String) : Option α :=
  (vs.reverse.find? fun v => v.1.toLower == namePrefix ++ name).map (·.2)

/-- The value of a setting: from the environment or else from the file. -/
def setting? (env : Environment) (file : FileVariables) (name : String) : Option String :=
  match lastOf? env name with
  | some v => some v
  | none => (lastOf? file name).join

/-- A setting as a truth value. -/
def readFence : Option String → Except Objection Bool
  | none => .ok default.fence
  | some s =>
    match Text.truth? s with
    | some b => .ok b
    | none => .error (Refusal.object .fence .readableTruth)

/-- A setting as a log level. -/
def readLevel : Option String → Except Objection LogLevel
  | none => .ok default.logLevel
  | some s =>
    match LogLevel.ofText? s with
    | some l => .ok l
    | none => .error (Refusal.object .logLevel (.logLevel s))

/-- The settings that variables give. -/
def ofVariables (env : Environment) (file : FileVariables) : Except Refusal Settings :=
  let path := (setting? env file "schema_path").map FilePath.ofText
  match readFence (setting? env file "fence"), readLevel (setting? env file "log_level") with
  | .ok fence, .ok level => .ok ⟨path, fence, level⟩
  | .error o, .ok _ => .error ⟨.settings, [o]⟩
  | .ok _, .error o => .error ⟨.settings, [o]⟩
  | .error o, .error o' => .error ⟨.settings, [o, o']⟩

/-! ## The file -/

/-- The file of variables. -/
def envFile : FilePath := ⟨"", [".env"]⟩

/-- What reads the text of a file of variables, in which a value may refer to the variables of the surroundings. -/
abbrev FileReader := Environment → String → FileVariables

/-- The variables in the file, if it is there. -/
def fileVariables (read : FileReader) (env : Environment) (t : FileTree) : Except Failure FileVariables :=
  match t.isFile envFile with
  | .ok true => (t.readText envFile).map (read env)
  | .ok false => .ok []
  | .error e => .error (.file e)

/-- The settings in the given surroundings. -/
def load (read : FileReader) (env : Environment) (t : FileTree) : Except Failure Settings := do
  let file ← fileVariables read env t
  (ofVariables env file).mapError Failure.refused

/-! ## What is shown -/

/-- The settings as they are shown. -/
def display (s : Settings) : String :=
  let path :=
    match s.schemaPath with
    | some p => "PosixPath(" ++ Text.quoted p.text ++ ")"
    | none => "None"
  let fence := (Json.bool s.fence).display
  "Config(schema_path=" ++ path ++ ", fence=" ++ fence ++ ", log_level=" ++ Text.quoted s.logLevel.name ++ ")"

/-- Whether a schema file is set. -/
def isSchemaConfigured (s : Settings) : Bool := s.schemaPath.isSome

/-- Whether a schema file is set and is there. -/
def schemaExists (s : Settings) (t : FileTree) : Except Failure Bool :=
  match s.schemaPath with
  | some p => (t.isFile p).mapError Failure.file
  | none => .ok false

end Settings

end SchemaChart
