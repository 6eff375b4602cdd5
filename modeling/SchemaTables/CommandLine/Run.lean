/-
  SchemaTables.CommandLine.Run
  ────────────────────────────
  **RUNNING A COMMAND.**

  A run takes a tree of files, the folder that it works in and its arguments,
  and gives what it prints and logs, whether it succeeded, and the tree
  afterwards.  The settings come first, then the schema, then what the command
  makes of it; the output file is opened last, so a run that fails has written
  nothing.
-/
import SchemaTables.CommandLine.Arguments
import SchemaTables.Json.Printer
import SchemaTables.Schema.Codec
import SchemaTables.Schema.Operations
import SchemaTables.Settings
import SchemaTables.Storage.Build
import SchemaTables.Storage.Codec

namespace SchemaTables.CommandLine

open Files Elaboration

/-! ## §1. Folders. -/

/-- The names in a path but for those that stay in place. -/
def plainNames (path : String) : List String :=
  (pathNames path).filter fun n => !staysInPlace n

/-- Does a path end in a slash? -/
def endsInSlash (path : String) : Bool := path.toList.getLast? = some '/'

/-- The path of a place. -/
def pathOfPlace (place : List String) : String :=
  if place.isEmpty then "/"
  else String.join (place.map fun n => "/" ++ n)

/-- A path as seen from the root: names that stay in place are dropped, one
slash at the end is kept, and two dots are left as they are.  Exactly two
slashes in front keep their meaning. -/
def absolutePath (cwd : List String) (path : String) : String :=
  let names := plainNames path
  let absolute :=
    if isAbsolute path then
      let slashes := (path.toList.takeWhile (· = '/')).length
      (if slashes = 2 then "/" else "") ++ pathOfPlace names
    else pathOfPlace (cwd ++ names)
  if endsInSlash path && !endsInSlash absolute then absolute ++ "/"
  else absolute

/-! ## §2. Results. -/

/-- How a run ends. -/
inductive Status where
  | success
  | failure
  /-- The arguments cannot be understood. -/
  | usage
  deriving DecidableEq, Repr

/-- The number that a status is reported as. -/
def Status.code : Status → Nat
  | .success => 0
  | .failure => 1
  | .usage => 2

/-- What a run leaves behind. -/
structure Outcome where
  status : Status
  stdout : String
  /-- The warnings.  They go to the standard error stream as well, in front of
  its text, but in lines of the logger's, which show the time and can be
  turned off. -/
  log : List Warning
  stderr : String
  tree : Node

/-- Why a run fails. -/
structure Failure where
  /-- A picture of the error in its file. -/
  picture : String
  message : String

/-- What is printed about a failure. -/
def Failure.text (f : Failure) : String :=
  f.picture ++ "Error: " ++ f.message ++ "\n"

/-- A part of a run: what it has logged, and its result. -/
structure Attempt (α : Type) where
  log : List Warning
  result : Except Failure α

/-! ## §3. Commands. -/

/-- The schema of a folder that has its own settings. -/
def loadFolder (tree : Node) (cwd : List String) (folder : String) :
    Attempt Schema :=
  match loadSettings tree cwd folder with
  | .error e => ⟨[], .error ⟨"", e.message⟩⟩
  | .ok settings =>
      let loaded :=
        loadSchema tree cwd folder settings.pattern settings.options
      ⟨loaded.warnings,
        loaded.result.mapError fun e => ⟨loaded.picture, e.message⟩⟩

/-- What a command says about a schema. -/
def describe (command : Command) (s : Schema) : Except Failure Json :=
  match command with
  | .model => .ok s.toJson
  | .operations => .ok (.ofMap OperationNames.toJson s.operations)
  | .storage =>
      match Storage.build s with
      | .ok m => .ok m.toJson
      | .error e => .error ⟨"", e.message⟩

/-- The text that a command prints. -/
def commandOutput (tree : Node) (cwd : List String) (command : Command)
    (folder : Option String) : Attempt String :=
  let path :=
    match folder with
    | some folder => absolutePath cwd folder
    | none => pathOfPlace cwd
  let loaded := loadFolder tree cwd path
  { log := loaded.log
    result := do
      let schema ← loaded.result
      let json ← describe command schema
      return json.pretty ++ "\n" }

/-- Write a text to a file, or leave it for the standard output: what is
printed there, and the tree afterwards. -/
def deliver (tree : Node) (cwd : List String) (text : String) :
    Option String → Except Failure (String × Node)
  | none => .ok (text, tree)
  | some path =>
      match writeText tree cwd path text with
      | .ok written => .ok ("", written)
      | .error e =>
          .error ⟨"", "Failed to create '" ++ path ++ "': " ++ e.message⟩

/-! ## §4. Runs. -/

/-- The name and number of this program. -/
def versionText : String := "gqlstore 0.1.0\n"

/-- How the program is used. -/
def usageText : String :=
  "Usage: gqlstore (model | storage | operations) [FOLDER] [-o FILE]\n"

/-- Run the program. -/
def run (tree : Node) (cwd : List String) (args : List String) : Outcome :=
  match Request.ofArguments? args with
  | none => ⟨.usage, "", [], usageText, tree⟩
  | some .version => ⟨.success, versionText, [], "", tree⟩
  | some .help => ⟨.success, usageText, [], "", tree⟩
  | some (.run command targets) =>
      let output := commandOutput tree cwd command targets.folder
      let delivered := do
        let text ← output.result
        deliver tree cwd text targets.output
      match delivered with
      | .ok (stdout, written) => ⟨.success, stdout, output.log, "", written⟩
      | .error f => ⟨.failure, "", output.log, f.text, tree⟩

end SchemaTables.CommandLine
