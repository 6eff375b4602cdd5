/-
  SchemaTables.CodeMap
  ────────────────────
  **SPANS IN A CODE MAP.**

  A code map numbers the bytes of all its files by positions of one range, so
  that a region of positions stands for a part of one of them.  Its operations
  assert what they are called with: a line of the file, a begin that is not
  behind the end, a region inside the file.  How it places its files is its
  own affair, so it is given by its operations only (`CodeMaps`).

  The files of a schema are put into a code map in order (`load`), and a
  location is turned into the region from its column to the end of its line
  (`span`).  Locations count lines and characters from one; regions count
  bytes.
-/
import SchemaTables.SourceMap

namespace SchemaTables

/-! ## §1. Code maps. -/

/-- The assertions of a code map. -/
inductive CodeMapFault where
  /-- The positions do not suffice for the file. -/
  | full
  /-- The file has no line of this number. -/
  | noSuchLine
  /-- The end of a region stands before its begin. -/
  | endBeforeBegin
  /-- The region goes beyond the one that it was taken from. -/
  | beyondRegion
  /-- The position or region is not inside the file. -/
  | outsideFile
  /-- The position is in no file. -/
  | unknownPosition
  /-- The position is inside a character. -/
  | insideCharacter
  deriving DecidableEq, Repr

/-- The positions from `low` up to `high`. -/
structure Region where
  low : Nat
  high : Nat
  deriving DecidableEq, Repr

/-- The file, the begin and the end of a region. -/
structure RegionPlace (File : Type) where
  file : File
  start : LineColumn
  stop : LineColumn
  deriving DecidableEq, Repr

/-- The operations of one kind of code maps; lines are counted from zero. -/
structure CodeMaps (Map File : Type) where
  empty : Map
  /-- Add a file with this name and text. -/
  addFile : Map → String → String → Except CodeMapFault (Map × File)
  name : File → String
  source : File → String
  /-- The positions of the whole file. -/
  region : File → Region
  numLines : File → Nat
  /-- The text of a line, without its end. -/
  sourceLine : File → Nat → Except CodeMapFault String
  /-- The positions of a line, with its end. -/
  lineRegion : File → Nat → Except CodeMapFault Region
  /-- A part of a region, by offsets from the begin of the region. -/
  subregion : Region → Nat → Nat → Except CodeMapFault Region
  lookUp : Map → Region → Except CodeMapFault (RegionPlace File)
  /-- The text of a region. -/
  slice : File → Region → Except CodeMapFault String

/-! ## §2. Loaded files. -/

/-- A code map with the files that were put into it, in order. -/
structure LoadedFiles (Map File : Type) where
  map : Map
  files : List File

/-- The offsets in bytes of the characters of a text, with the characters. -/
def charIndicesFrom (offset : Nat) : List Char → List (Nat × Char)
  | [] => []
  | c :: cs => (offset, c) :: charIndicesFrom (offset + c.utf8Size) cs

namespace CodeMaps

variable {Map File : Type} (ops : CodeMaps Map File)

/-- Put files into a code map, one after the other. -/
def addFiles (map : Map) :
    List SourceFile → Except CodeMapFault (LoadedFiles Map File)
  | [] => .ok ⟨map, []⟩
  | f :: rest => do
      let (map, file) ← ops.addFile map f.path f.text
      let loaded ← addFiles map rest
      return ⟨loaded.map, file :: loaded.files⟩

/-- A code map of these files. -/
def load (files : List SourceFile) :
    Except CodeMapFault (LoadedFiles Map File) :=
  ops.addFiles ops.empty files

/-- The offset in bytes of a column of a line, counted from one; the end of
the line if it has no such column. -/
def columnOffset (line : String) (column : Nat) : Nat :=
  ((charIndicesFrom 0 line.toList)[column - 1]?.map (·.1)).getD
    line.utf8ByteSize

/-- The region from a location to the end of its line. -/
def span (loaded : LoadedFiles Map File) (location : Elaboration.Location) :
    Except CodeMapFault (Option Region) :=
  match loaded.files[location.document]? with
  | none => .ok none
  | some file =>
      if location.position.line = 0 then .ok none
      else
        let line := location.position.line - 1
        if ops.numLines file ≤ line then .ok none
        else do
          let text ← ops.sourceLine file line
          let whole ← ops.lineRegion file line
          let part ← ops.subregion whole
            (columnOffset text location.position.column) text.utf8ByteSize
          return some part

end CodeMaps

end SchemaTables
