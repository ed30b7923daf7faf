/-
The program. It looks up the files that a run may touch, runs the command line on what it found, writes
the files that the run changed, and prints what the run says.
-/
import SchemaChart.Command.Run

namespace SchemaChart.Main

/-- How the program is used. -/
def usage : String :=
  "Usage: schema-chart generate [--output FILE] [--fence | --no-fence] [SCHEMA_FILE]\n" ++
    "       schema-chart show-schema [SCHEMA_FILE]"

/-! ## Files -/

/-- The text of the place that names lead to from the root. -/
def placeText (place : List String) : String := "/" ++ "/".intercalate place

/-- The places on the way of names from a folder. -/
def placesOn (folder : List String) : List String → List (List String)
  | [] => []
  | name :: rest =>
    let place := if name = ".." then folder.dropLast else folder ++ [name]
    place :: placesOn place rest

/-- The files that a command line names. -/
def namedFiles : Command.Invocation → List String
  | .request (.generate schema output _) => schema.toList ++ output.toList
  | .request (.showSchema schema) => schema.toList
  | _ => []

/-- The tree with what lies at a place. -/
def addPlace (t : FileTree) (place : List String) : IO FileTree := do
  let path := (← IO.currentDir) / placeText place
  if ← path.isDir then
    pure { t with folders := place :: t.folders }
  else if ← path.pathExists then
    let content ← IO.FS.readBinFile path
    pure { t with files := (place, content.toList) :: t.files }
  else
    pure t

/-- The tree with what lies on the way of a path. -/
def addPath (t : FileTree) (p : FilePath) : IO FileTree :=
  (placesOn (if p.root = "" then t.workingDirectory else []) p.parts).foldlM addPlace t

/-- The tree of the files that a run may touch. -/
def survey (p : Command.Platform) (env : Environment) (invocation : Command.Invocation) : IO FileTree := do
  let here := FilePath.ofText (← IO.currentDir).toString
  let t ← addPath ⟨[], [], here.parts⟩ Settings.envFile
  let configured :=
    match Settings.load p.readVariables env t with
    | .ok settings => settings.schemaPath.toList
    | .error _ => []
  ((namedFiles invocation).map FilePath.ofText ++ configured).foldlM addPath t

/-- Writes the files that a run changed. -/
def save (before after : FileTree) : IO Unit :=
  (before.changes after).forM fun (place, content) =>
    IO.FS.writeBinFile (placeText place) ⟨content.toArray⟩

/-! ## Variables -/

/-- The variables in a list of them, each behind the last with a NUL between. -/
def listedVariables (text : String) : Environment :=
  (Text.pieces (· == '\x00') text.toList).filterMap fun entry =>
    match Command.splitEquals entry with
    | (name, some value) => some (String.ofList name, String.ofList value)
    | (_, none) => none

/-- The variables that count for a run, by their usual names. -/
def usualVariables : IO Environment :=
  let names := ["SCHEMA_MERMAID_SCHEMA_PATH", "SCHEMA_MERMAID_FENCE", "SCHEMA_MERMAID_LOG_LEVEL", "COLUMNS"]
  names.filterMapM fun name => do
    pure ((← IO.getEnv name).map fun value => (name, value))

/-- The variables of the surroundings: all of them where the system lists them. -/
def environment : IO Environment := do
  match ← (IO.FS.readFile "/proc/self/environ").toBaseIO with
  | .ok text => pure (listedVariables text)
  | .error _ => usualVariables

/-! ## The run -/

/-- Runs a command line and gives its exit code. -/
def run (arguments : List String) : IO Nat := do
  let env ← environment
  let platform := Command.Platform.ofEnvironment env
  let invocation := platform.invocation arguments
  let before ← survey platform env invocation
  let outcome := Command.run platform env before arguments
  save before outcome.files
  outcome.messages.forM fun message => IO.eprintln message
  IO.print outcome.stdout
  match invocation with
  | .help => IO.println usage
  | .misuse => IO.eprintln usage
  | .request _ => pure ()
  pure outcome.exitCode

end SchemaChart.Main

def main (arguments : List String) : IO UInt32 := do
  try
    pure (← SchemaChart.Main.run arguments).toUInt32
  catch e =>
    IO.eprintln s!"Error: {e}"
    pure 1
