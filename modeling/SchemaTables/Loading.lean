/-
  SchemaTables.Loading
  ────────────────────
  **FROM A FOLDER TO A SCHEMA.**

  All schema files of a folder are read first, then parsed in the order of
  their paths, then elaborated together.  A file that does not parse is
  reported with its number among the files and its path.
-/
import SchemaTables.Diagnostic
import SchemaTables.Elaboration.Elaborate
import SchemaTables.Files.Discovery
import SchemaTables.Sdl.Reading

namespace SchemaTables

open Files Sdl Elaboration

/-! ## §1. Errors. -/

/-- A file that does not parse. -/
structure ParseFailure where
  document : Nat
  path : String
  message : String
  position : Option Position
  deriving DecidableEq, Repr

namespace ParseFailure

/-- Where the parser stopped. -/
def location? (p : ParseFailure) : Option Location :=
  p.position.map (⟨p.document, ·⟩)

end ParseFailure

/-- Why a schema cannot be loaded. -/
inductive LoadError where
  | notAFolder (folder : String)
  | noFiles (folder pattern : String)
  | file (error : FileError)
  | parse (failure : ParseFailure)
  | elaboration (error : ElaborationError)
  deriving DecidableEq, Repr

namespace LoadError

/-- The text of an error. -/
def message : LoadError → String
  | .notAFolder folder => "'" ++ folder ++ "' is not a directory"
  | .noFiles folder pattern =>
      "No files matching '" ++ pattern ++ "' found under '" ++ folder ++ "'"
  | .file error => error.message
  | .parse failure =>
      "Could not parse '" ++ failure.path ++ "': " ++ failure.message
  | .elaboration error => error.message

/-- Where in the files the error is, and what is said there. -/
def remark? : LoadError → Option (Location × String)
  | .parse failure => failure.location?.map fun l => (l, failure.message)
  | .elaboration error => some (error.location, error.message)
  | _ => none

/-- The diagnostic for an error that has a place in the files. -/
def diagnostic? (m : SourceMap) (e : LoadError) : Option Diagnostic :=
  e.remark?.bind fun r => Diagnostic.at? m r.1 r.2

end LoadError

/-! ## §2. Reading and parsing. -/

/-- The name pattern of schema files where none is given. -/
def defaultPattern : String := "*.graphql"

/-- Decode files in order, up to the first that is no text. -/
def decodeFiles (folder : String) :
    List FoundFile → Except LoadError (List SourceFile)
  | [] => .ok []
  | f :: rest =>
      match decodeText f.bytes with
      | .error e => .error (.file e)
      | .ok text =>
          (decodeFiles folder rest).map (⟨f.pathBelow folder, text⟩ :: ·)

/-- The schema files of a folder, in the order of their paths. -/
def readSchemaFiles (root : Node) (cwd : List String)
    (folder pattern : String) : Except LoadError (List SourceFile) :=
  match nodeAt root cwd folder with
  | .ok (.folder entries) =>
      match discover pattern (.folder entries) with
      | [] => .error (.noFiles folder pattern)
      | files => decodeFiles folder files
  | _ => .error (.notAFolder folder)

/-- The message about a fault of a document. -/
def faultMessage (e : SyntaxError) : String :=
  match e.fault with
  | .unexpected =>
      " --> " ++ toString e.position.line ++ ":"
        ++ toString e.position.column ++ ": " ++ e.fault.message
  | _ => e.fault.message

/-- Parse files that are numbered from `n` on, up to the first that is no
document. -/
def parseFrom (n : Nat) : List SourceFile → Except LoadError (List Document)
  | [] => .ok []
  | f :: rest =>
      match Document.parse f.text with
      | .error e =>
          .error (.parse ⟨n, f.path, faultMessage e, some e.position⟩)
      | .ok d => (parseFrom (n + 1) rest).map (d :: ·)

/-- Parse files in order. -/
def parseFiles (files : List SourceFile) :
    Except LoadError (List Document) :=
  parseFrom 0 files

/-! ## §3. Loading. -/

/-- The outcome of loading: the files as far as they were read, the warnings
given, and the result. -/
structure Loaded (α : Type) where
  sources : SourceMap
  warnings : List Warning
  result : Except LoadError α

/-- The schema of files that are read. -/
def loadFiles (options : Options) (files : List SourceFile) :
    Loaded Schema :=
  match parseFiles files with
  | .error e => ⟨⟨files⟩, [], .error e⟩
  | .ok docs =>
      let report := elaborate options docs
      ⟨⟨files⟩, report.warnings,
        report.result.mapError LoadError.elaboration⟩

/-- The schema of a folder. -/
def loadSchema (root : Node) (cwd : List String) (folder pattern : String)
    (options : Options) : Loaded Schema :=
  match readSchemaFiles root cwd folder pattern with
  | .error e => ⟨⟨[]⟩, [], .error e⟩
  | .ok files => loadFiles options files

/-- The picture of the error in its file, if the loading failed at a place in
one; otherwise nothing. -/
def Loaded.picture {α : Type} (l : Loaded α) : String :=
  match l.result with
  | .ok _ => ""
  | .error e =>
      match e.diagnostic? l.sources with
      | some d => d.render l.sources
      | none => ""

end SchemaTables
