/-
Running a command. Settings are read first, then the schema file is chosen and loaded, then the diagram is made; the
text goes to the output file as it is, or is printed. A failure at any stage is reported and ends with exit code 1, the
files as they were, and nothing printed but the messages. Everything printed goes through the platform, which may fail
as well; only the message after a flowchart is written can fail too late.
-/
import SchemaChart.Command.Platform
import SchemaChart.Listing

namespace SchemaChart.Command

/-- How a run ends: the exit code, the text printed, the messages, and the files. -/
structure Outcome where
  exitCode : Nat
  stdout : String
  messages : List String
  files : FileTree

/-- The messages of a run so far, and the files as they are now. -/
structure Progress where
  messages : List String
  files : FileTree

/-! ## Messages -/

/-- The outcome of a fault that nothing is said about. -/
def Progress.abandoned (r : Progress) : Outcome := ⟨1, "", r.messages, r.files⟩

/-- The outcome of a failure that is reported. -/
def reported (p : Platform) (r : Progress) (text : String) : Outcome :=
  match p.message (.failure text) with
  | .ok line => { r with messages := r.messages ++ [line] }.abandoned
  | .error _ => r.abandoned

/-- The outcome of a fault. -/
def faulted (p : Platform) (r : Progress) : Fault → Outcome
  | .caught text => reported p r text
  | .uncaught => r.abandoned

/-- The outcome of a failure. -/
def failed (p : Platform) (r : Progress) (e : Failure) : Outcome := reported p r e.message

/-- The outcome of what follows a message. -/
def say (p : Platform) (r : Progress) (m : Message) (next : Progress → Outcome) : Outcome :=
  match p.message m with
  | .ok line => next { r with messages := r.messages ++ [line] }
  | .error fault => faulted p r fault

/-- The outcome of printing. -/
def printed (p : Platform) (r : Progress) : Except Fault String → Outcome
  | .ok shown => ⟨0, shown ++ "\n", r.messages, r.files⟩
  | .error fault => faulted p r fault

/-! ## Stages -/

/-- The schema file to load: the one asked for, or else the one of the settings. -/
def chooseSchema (asked : Option String) (settings : Settings) : Except Failure FilePath :=
  match asked with
  | some text => .ok (.ofText text)
  | none =>
    match settings.schemaPath with
    | some path => .ok path
    | none => .error .noSchemaFile

/-- The settings and the schema file of a request. -/
def prepare (p : Platform) (env : Environment) (files : FileTree) (asked : Option String) :
    Except Failure (Settings × FilePath) := do
  let settings ← Settings.load p.readVariables env files
  let path ← chooseSchema asked settings
  pure (settings, path)

/-- The flowchart as it is printed or written. -/
def finish (fenced : Bool) (flowchart : String) : String :=
  if fenced then Diagram.fence flowchart else flowchart

/-- Writes a text with a line end to a file. -/
def writeText (p : Platform) (r : Progress) (path : FilePath) (text : String) : Outcome :=
  match r.files.write path (text ++ "\n").toUTF8.toList with
  | .ok after =>
    say p { r with files := after } (.written path) fun r => ⟨0, "", r.messages, r.files⟩
  | .error e => failed p r (.file e)

/-- Writes a text to the output file, or else prints it. -/
def deliver (p : Platform) (r : Progress) (output : Option String) (text : String) : Outcome :=
  match output with
  | some path => writeText p r (.ofText path) text
  | none => printed p r (p.print text)

/-! ## Commands -/

/-- The outcome of what follows on the settings and the schema of a request. -/
def withSchema (p : Platform) (env : Environment) (files : FileTree) (asked : Option String)
    (next : Settings → Schema → Progress → Outcome) : Outcome :=
  match prepare p env files asked with
  | .error e => failed p ⟨[], files⟩ e
  | .ok (settings, path) =>
    say p ⟨[], files⟩ (.loading path) fun r =>
      match Schema.load files path with
      | .error e => failed p r e
      | .ok s => next settings s r

def generate (p : Platform) (env : Environment) (files : FileTree) (schema output : Option String)
    (fence : Option Bool) : Outcome :=
  withSchema p env files schema fun settings s r =>
    say p r .generating fun r =>
      match s.chart with
      | .error e => failed p r e
      | .ok chart => deliver p r output (finish (fence.getD settings.fence) chart)

def showSchema (p : Platform) (env : Environment) (files : FileTree) (schema : Option String) : Outcome :=
  withSchema p env files schema fun _ s r =>
    match Diagram.draw s with
    | .error e => failed p r (.diagram e)
    | .ok drawing => printed p r (p.grid (Listing.grid s drawing))

/-- The run of a request. -/
def Request.run (p : Platform) (env : Environment) (files : FileTree) : Request → Outcome
  | .generate schema output fence => Command.generate p env files schema output fence
  | .showSchema schema => Command.showSchema p env files schema

/-- The run of a command line. Help and misuse print nothing here; misuse has exit code 2. -/
def run (p : Platform) (env : Environment) (files : FileTree) (arguments : List String) : Outcome :=
  match p.invocation arguments with
  | .request r => r.run p env files
  | .help => ⟨0, "", [], files⟩
  | .misuse => ⟨2, "", [], files⟩

end SchemaChart.Command
