/-
  SchemaTables.Files.Discovery
  ────────────────────────────
  **FINDING SCHEMA FILES.**

  Below a folder, all files count whose name matches a pattern, in all
  folders but those whose name begins with a dot.  They are sorted by their
  paths, which are compared name by name: what lies in a folder `a` comes
  before a file `a-b`.
-/
import SchemaTables.Files.Tree
import SchemaTables.Text.Wildcard

namespace SchemaTables.Files

open Text

/-! ## §1. Finding. -/

/-- A file, with the names that lead to it from the folder searched. -/
structure FoundFile where
  path : List String
  bytes : ByteArray

/-- The same file, seen from the folder above. -/
def FoundFile.below (folder : String) (f : FoundFile) : FoundFile :=
  { f with path := folder :: f.path }

/-- Is this the name of a hidden folder? -/
def isHidden (name : String) : Bool := name.toList.head? = some '.'

mutual

/-- The files below a node, in the order of the entries. -/
def findIn (pattern : List Char) : Node → List FoundFile
  | .file _ => []
  | .folder entries => findAmong pattern entries
termination_by structural node => node

/-- The files among several entries and below them. -/
def findAmong (pattern : List Char) :
    List (String × Node) → List FoundFile
  | [] => []
  | entry :: rest => findEntry pattern entry ++ findAmong pattern rest
termination_by structural entries => entries

/-- The file that an entry is, or the files below it. -/
def findEntry (pattern : List Char) : String × Node → List FoundFile
  | (name, node) =>
      match node with
      | .file bytes =>
          if wildcardMatches pattern name.toList then [⟨[name], bytes⟩]
          else []
      | .folder _ =>
          if isHidden name then []
          else (findIn pattern node).map (·.below name)
termination_by structural entry => entry

end

/-! ## §2. Sorting. -/

/-- Does one path come before another? -/
def pathBefore : List String → List String → Bool
  | [], [] => false
  | [], _ :: _ => true
  | _ :: _, [] => false
  | a :: as, b :: bs => a < b || (a = b && pathBefore as bs)

/-- Put a file in its place among sorted ones. -/
def insertFile (f : FoundFile) : List FoundFile → List FoundFile
  | [] => [f]
  | g :: rest =>
      if pathBefore g.path f.path then g :: insertFile f rest
      else f :: g :: rest

/-- Sort files by their paths. -/
def sortFiles (files : List FoundFile) : List FoundFile :=
  files.foldr insertFile []

/-- The files below a node whose names match, sorted by path. -/
def discover (pattern : String) (node : Node) : List FoundFile :=
  sortFiles (findIn pattern.toList node)

/-- The path of a file below a folder. -/
def FoundFile.pathBelow (folder : String) (f : FoundFile) : String :=
  f.path.foldl joinPath folder

end SchemaTables.Files
