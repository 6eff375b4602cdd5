/-
  SchemaTables.Files.Tree
  ───────────────────────
  **FILES AND FOLDERS.**

  A tree holds files with their bytes and folders with their entries.  The
  entries stand in whatever order they happen to be listed in: nothing that is
  found below depends on it as long as their names are distinct.

  A place in the tree is the list of names that lead to it from the root.
  `resolve` finds the place that a path means: it goes through the names one
  by one, a dot stays, two dots go up, and every step needs a folder.
-/

namespace SchemaTables.Files

/-! ## §1. Trees. -/

/-- A file or a folder. -/
inductive Node where
  | file (bytes : ByteArray)
  | folder (entries : List (String × Node))

/-- Why a file cannot be used. -/
inductive FileError where
  | notFound
  | notAFolder
  | isAFolder
  | notText
  deriving DecidableEq, Repr

/-- The text of an error. -/
def FileError.message : FileError → String
  | .notFound => "No such file or directory (os error 2)"
  | .notAFolder => "Not a directory (os error 20)"
  | .isAFolder => "Is a directory (os error 21)"
  | .notText => "stream did not contain valid UTF-8"

namespace Node

/-- The entry of this name. -/
def entry? (name : String) : List (String × Node) → Option Node
  | [] => none
  | (n, node) :: rest => if n = name then some node else entry? name rest

/-- The node at a place. -/
def find? (root : Node) : List String → Option Node
  | [] => some root
  | name :: place =>
      match root with
      | .file _ => none
      | .folder entries =>
          match entry? name entries with
          | some node => node.find? place
          | none => none

/-- Is there a folder at a place? -/
def isFolder (root : Node) (place : List String) : Bool :=
  match root.find? place with
  | some (.folder _) => true
  | _ => false

/-- Put a file under a name among the entries of a folder. -/
def putEntry (name : String) (bytes : ByteArray) :
    List (String × Node) → List (String × Node)
  | [] => [(name, .file bytes)]
  | (n, node) :: rest =>
      if n = name then (n, .file bytes) :: rest
      else (n, node) :: putEntry name bytes rest

/-- Apply `change` to the node of this name. -/
def changeEntry (change : Node → Node) (name : String) :
    List (String × Node) → List (String × Node)
  | [] => []
  | (n, node) :: rest =>
      if n = name then (n, change node) :: rest
      else (n, node) :: changeEntry change name rest

/-- Put a node at a place where there is none yet, making the folders on the
way; a node that is there already stays. -/
def plant (node : Node) : List String → Node → Node
  | _, .file b => .file b
  | [], .folder entries => .folder entries
  | name :: place, .folder entries =>
      match entry? name entries with
      | some _ => .folder (changeEntry (plant node place) name entries)
      | none =>
          let new := if place.isEmpty then node
            else plant node place (.folder [])
          .folder (entries ++ [(name, new)])

/-- Write a file into the folder at a place. -/
def write (name : String) (bytes : ByteArray) : List String → Node → Node
  | _, .file b => .file b
  | [], .folder entries => .folder (putEntry name bytes entries)
  | step :: place, .folder entries =>
      .folder (changeEntry (write name bytes place) step entries)

end Node

/-! ## §2. Paths. -/

/-- The names in a path, separated by slashes; `name` is the current one,
last character first. -/
def pathNamesFrom (name : List Char) : List Char → List String
  | [] => [String.ofList name.reverse]
  | c :: rest =>
      if c = '/' then String.ofList name.reverse :: pathNamesFrom [] rest
      else pathNamesFrom (c :: name) rest

/-- The names in a path.  A slash in front or at the end, and one that
follows another, leave an empty name, which like a dot stays in place. -/
def pathNames (path : String) : List String := pathNamesFrom [] path.toList

/-- Does a path begin at the root? -/
def isAbsolute (path : String) : Bool := path.toList.head? = some '/'

/-- Does this name stay in place? -/
def staysInPlace (name : String) : Bool := name = "" || name = "."

/-- Go from a place along names. -/
def resolveFrom (root : Node) (place : List String) :
    List String → Except FileError (List String)
  | [] => .ok place
  | name :: rest =>
      match root.find? place with
      | none => .error .notFound
      | some (.file _) => .error .notAFolder
      | some (.folder entries) =>
          if staysInPlace name then resolveFrom root place rest
          else if name = ".." then resolveFrom root place.dropLast rest
          else
            match Node.entry? name entries with
            | some _ => resolveFrom root (place ++ [name]) rest
            | none => .error .notFound

/-- The place that a path means to someone working in the folder `cwd`. -/
def resolve (root : Node) (cwd : List String) (path : String) :
    Except FileError (List String) :=
  resolveFrom root (if isAbsolute path then [] else cwd) (pathNames path)

/-- The node that a path means. -/
def nodeAt (root : Node) (cwd : List String) (path : String) :
    Except FileError Node :=
  match resolve root cwd path with
  | .error e => .error e
  | .ok place =>
      match root.find? place with
      | some node => .ok node
      | none => .error .notFound

/-- Is the path that of a folder? -/
def isFolderAt (root : Node) (cwd : List String) (path : String) : Bool :=
  match nodeAt root cwd path with
  | .ok (.folder _) => true
  | _ => false

/-- Is there anything under the path? -/
def existsAt (root : Node) (cwd : List String) (path : String) : Bool :=
  (nodeAt root cwd path).isOk

/-- A name below a folder. -/
def joinPath (folder name : String) : String :=
  if folder.toList.getLast? = some '/' then folder ++ name
  else folder ++ "/" ++ name

/-! ## §3. Reading and writing. -/

/-- The text of a file's bytes. -/
def decodeText (bytes : ByteArray) : Except FileError String :=
  match String.fromUTF8? bytes with
  | some text => .ok text
  | none => .error .notText

/-- The text of the file under a path. -/
def readText (root : Node) (cwd : List String) (path : String) :
    Except FileError String :=
  match nodeAt root cwd path with
  | .error e => .error e
  | .ok (.folder _) => .error .isAFolder
  | .ok (.file bytes) => decodeText bytes

/-- Split a path into the part before its last name and that name; a path
that ends in a slash or a dot names a folder and has no last name. -/
def splitLast (path : String) : List String × Option String :=
  let names := pathNames path
  match names.getLast? with
  | none => ([], none)
  | some last =>
      if staysInPlace last || last = ".." then
        let kept := (names.reverse.dropWhile (· = "")).reverse
        (kept.dropLast, none)
      else (names.dropLast, some last)

/-- Write a file under a path: its folder must exist, and there must be no
folder of its name. -/
def writeText (root : Node) (cwd : List String) (path text : String) :
    Except FileError Node :=
  let (parents, last) := splitLast path
  let start := if isAbsolute path then [] else cwd
  match resolveFrom root start parents with
  | .error e => .error e
  | .ok place =>
      if !root.isFolder place then .error .notAFolder
      else
        match last with
        | none => .error .isAFolder
        | some name =>
            if root.isFolder (place ++ [name]) then .error .isAFolder
            else .ok (root.write name text.toUTF8 place)

end SchemaTables.Files
