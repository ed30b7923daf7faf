/-
Files and folders. A folder is there if it is listed, if a file lies in it, or if the working directory
does. Reading and writing follow a path name by name, so two dots lead to the folder above, and a name
that is missing on the way, is too long, or is a file and not a folder, stops them.
-/
import SchemaChart.Files.FilePath
import SchemaChart.Text.Quoted

namespace SchemaChart

/-- Files and folders by the names that lead to them from the root, and the working directory. -/
structure FileTree where
  files : List (List String × List UInt8)
  folders : List (List String)
  workingDirectory : List String
  deriving Repr

namespace FileTree

/-- Why a file cannot be opened. -/
inductive Fault where
  | notFound
  | isDirectory
  | notDirectory
  | nameTooLong
  | embeddedNull
  deriving DecidableEq, Repr

/-- A file that cannot be opened. -/
structure Error where
  fault : Fault
  path : FilePath
  deriving DecidableEq, Repr

def Error.message (e : Error) : String :=
  match e.fault with
  | .notFound => "[Errno 2] No such file or directory: " ++ Text.quoted e.path.text
  | .isDirectory => "[Errno 21] Is a directory: " ++ Text.quoted e.path.text
  | .notDirectory => "[Errno 20] Not a directory: " ++ Text.quoted e.path.text
  | .nameTooLong => "[Errno 36] File name too long: " ++ Text.quoted e.path.text
  | .embeddedNull => "embedded null byte"

/-! ## Finding -/

/-- What lies at a place. -/
inductive Entry where
  | file (content : List UInt8)
  | folder
  deriving DecidableEq, Repr

/-- What lies at the place that names lead to. -/
def find? (t : FileTree) (place : List String) : Option Entry :=
  match t.files.lookup place with
  | some content => some (.file content)
  | none =>
    if place.isPrefixOf t.workingDirectory || t.folders.any place.isPrefixOf ||
        t.files.any fun f => place.isPrefixOf f.1 then some .folder
    else none

/-- Where a path leads: to a folder, to a file, or to a free name in a folder. -/
inductive Target where
  | folder
  | file (place : List String) (content : List UInt8)
  | free (place : List String)
  deriving DecidableEq, Repr

/-- The most octets that a name in a folder can have. -/
def longestName : Nat := 255

/-- The most octets that the text of a path can have. -/
def longestPath : Nat := 4095

/-- Follows names from a folder. -/
def follow (t : FileTree) (folder : List String) : List String → Except Fault Target
  | [] => .ok .folder
  | name :: rest =>
    if name = ".." then follow t folder.dropLast rest
    else if longestName < name.utf8ByteSize then .error .nameTooLong
    else
      match t.find? (folder ++ [name]) with
      | some (.file content) =>
        if rest = [] then .ok (.file (folder ++ [name]) content) else .error .notDirectory
      | some .folder => follow t (folder ++ [name]) rest
      | none => if rest = [] then .ok (.free (folder ++ [name])) else .error .notFound

/-- Where a path leads. -/
def target (t : FileTree) (p : FilePath) : Except Fault Target :=
  if p.parts.any fun name => name.toList.contains '\x00' then .error .embeddedNull
  else if longestPath < p.text.utf8ByteSize then .error .nameTooLong
  else t.follow (if p.root = "" then t.workingDirectory else []) p.parts

/-! ## Reading and writing -/

/-- The content of a file. -/
def read (t : FileTree) (p : FilePath) : Except Error (List UInt8) :=
  match t.target p with
  | .ok (.file _ content) => .ok content
  | .ok .folder => .error ⟨.isDirectory, p⟩
  | .ok (.free _) => .error ⟨.notFound, p⟩
  | .error fault => .error ⟨fault, p⟩

/-- Whether a path leads to a file. It is an error to ask that of a name that is too long. -/
def isFile (t : FileTree) (p : FilePath) : Except Error Bool :=
  match t.target p with
  | .ok (.file _ _) => .ok true
  | .error .nameTooLong => .error ⟨.nameTooLong, p⟩
  | _ => .ok false

/-- Files with `content` at a place, instead of what was there. -/
def put (place : List String) (content : List UInt8) :
    List (List String × List UInt8) → List (List String × List UInt8)
  | [] => [(place, content)]
  | (p, old) :: rest => if p = place then (p, content) :: rest else (p, old) :: put place content rest

/-- The files after one is written. -/
def write (t : FileTree) (p : FilePath) (content : List UInt8) : Except Error FileTree :=
  match t.target p with
  | .ok (.file place _) => .ok { t with files := put place content t.files }
  | .ok (.free place) => .ok { t with files := put place content t.files }
  | .ok .folder => .error ⟨.isDirectory, p⟩
  | .error fault => .error ⟨fault, p⟩

/-- The files of `after` that are new or have another content. -/
def changes (before after : FileTree) : List (List String × List UInt8) :=
  after.files.filter fun f => decide (before.files.lookup f.1 ≠ some f.2)

/-- The files below a working directory, by the names that lead to them from there. -/
def below (workingDirectory : List String) (files : List (List String × List UInt8)) : FileTree where
  files := files.map fun (place, content) => (workingDirectory ++ place, content)
  folders := []
  workingDirectory := workingDirectory

end FileTree

end SchemaChart
