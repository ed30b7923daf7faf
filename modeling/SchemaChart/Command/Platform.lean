/-
What a run works on: the reading of command lines and of files of variables, and the ways to the terminal. All that the
libraries around the program do is in these functions, and they may depend on anything outside the files, such as the
width of the terminal; results about runs hold whatever they do. `Platform.ofColumns` is the platform that the program
runs on here: the readings of this project, and a terminal of so many columns without styles, where standard output goes
to a file or a pipe.
-/
import SchemaChart.Command.Arguments
import SchemaChart.Settings.Basic
import SchemaChart.Settings.EnvFile
import SchemaChart.Text.Grid

namespace SchemaChart.Command

/-! ## Messages -/

/-- A message: a text from outside, between words of the program. -/
structure Message where
  before : String
  text : String
  after : String
  deriving DecidableEq, Repr

namespace Message

/-- The message before a schema is loaded. -/
def loading (p : FilePath) : Message := ⟨"Loading schema from ", p.text, "..."⟩

/-- The message before a flowchart is made. -/
def generating : Message := ⟨"Generating flowchart...", "", ""⟩

/-- The message after a flowchart is written. -/
def written (p : FilePath) : Message := ⟨"✓ Flowchart written to ", p.text, ""⟩

/-- The message of a failure. -/
def failure (text : String) : Message := ⟨"Error: ", text, ""⟩

end Message

/-! ## Platforms -/

/-- Why nothing comes out. A run reports what it can catch like a failure of its own; anything else ends it. -/
inductive Fault where
  | caught (text : String)
  | uncaught
  deriving DecidableEq, Repr

/-- What a run works on. Where printing gives a fault nothing is printed. -/
structure Platform where
  /-- What a command line asks for. -/
  invocation : List String → Invocation
  /-- The variables in a file. -/
  readVariables : Settings.FileReader
  /-- What is printed for a message. -/
  message : Message → Except Fault String
  /-- What is printed for a grid. -/
  grid : Text.Grid → Except Fault String
  /-- What is printed for a text. -/
  print : String → Except Fault String

namespace Platform

/-- What is printed, if anything can be. -/
def orUncaught (shown : Option String) : Except Fault String := shown.elim (.error .uncaught) .ok

/-- The platform with a terminal of so many columns. -/
def ofColumns (columns : Nat) : Platform where
  invocation := Invocation.ofArguments
  readVariables := EnvFile.read
  message m := orUncaught (Text.Terminal.line? columns (m.before ++ Text.Terminal.shown m.text ++ m.after))
  grid g := orUncaught (g.text? columns)
  print text := .ok (Text.Terminal.withoutSequences text)

/-- The columns of a terminal that nothing is known of. -/
def usualColumns : Nat := 80

/-- The columns that an environment gives a terminal. -/
def columnsOf (env : Environment) : Nat :=
  let digits? := (env.lookup "COLUMNS").filter fun text => text.all Char.isDigit
  (digits?.bind String.toNat?).getD usualColumns

/-- The platform in an environment. -/
def ofEnvironment (env : Environment) : Platform := ofColumns (columnsOf env)

end Platform

end SchemaChart.Command
