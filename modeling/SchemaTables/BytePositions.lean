/-
  SchemaTables.BytePositions
  ──────────────────────────
  **A CODE MAP BY GLOBAL BYTE POSITIONS.**

  Each file takes one position for each of its bytes and one for its end.  The
  first file begins at position 1 and every other right behind the end of the
  one before it, so a position belongs to one file only, and positions are
  numbers of 32 bits.  A file remembers where its lines start.

  Texts are cut at byte offsets (`splitBytes`), which fails inside a
  character.
-/
import SchemaTables.CodeMap

namespace SchemaTables

/-! ## §1. Files by position. -/

/-- A file, with the position of its first byte. -/
structure PlacedFile where
  name : String
  source : String
  low : Nat
  deriving DecidableEq, Repr

/-- Cut a text after so many bytes. -/
def splitBytes : List Char → Nat → Option (List Char × List Char)
  | [], n => if n = 0 then some ([], []) else none
  | c :: cs, n =>
      if n = 0 then some ([], c :: cs)
      else if n < c.utf8Size then none
      else (splitBytes cs (n - c.utf8Size)).map fun p => (c :: p.1, p.2)

/-- The positions behind the line feeds of a text that begins here. -/
def lineStartsFrom (position : Nat) : List Char → List Nat
  | [] => []
  | c :: cs =>
      let next := position + c.utf8Size
      if c = '\n' then next :: lineStartsFrom next cs
      else lineStartsFrom next cs

namespace PlacedFile

/-- The position of the end. -/
def high (f : PlacedFile) : Nat := f.low + f.source.utf8ByteSize

/-- The positions at which the lines begin. -/
def lineStarts (f : PlacedFile) : List Nat :=
  f.low :: lineStartsFrom f.low f.source.toList

def lineRegion (f : PlacedFile) (line : Nat) : Except CodeMapFault Region :=
  match f.lineStarts[line]? with
  | none => .error .noSuchLine
  | some low => .ok ⟨low, f.lineStarts[line + 1]?.getD f.high⟩

def slice (f : PlacedFile) (r : Region) : Except CodeMapFault String :=
  if r.low < f.low ∨ f.high < r.high then .error .outsideFile
  else if r.high < r.low then .error .endBeforeBegin
  else
    match splitBytes f.source.toList (r.low - f.low) with
    | none => .error .insideCharacter
    | some (_, rest) =>
        match splitBytes rest (r.high - r.low) with
        | none => .error .insideCharacter
        | some (text, _) => .ok (String.ofList text)

def sourceLine (f : PlacedFile) (line : Nat) : Except CodeMapFault String := do
  let r ← f.lineRegion line
  let text ← f.slice r
  return String.ofList (trimLineEnd text.toList)

/-- The line and the column of a position. -/
def placeOf (f : PlacedFile) (position : Nat) :
    Except CodeMapFault LineColumn :=
  if position < f.low ∨ f.high < position then .error .outsideFile
  else do
    -- the last line that does not start behind the position
    let line := f.lineStarts.countP (· ≤ position) - 1
    let r ← f.lineRegion line
    let text ← f.slice r
    match splitBytes text.toList (position - r.low) with
    | none => .error .insideCharacter
    | some (before, _) => return ⟨line, before.length⟩

end PlacedFile

/-! ## §2. The code map. -/

namespace BytePositions

/-- The last position that is taken. -/
def lastPosition (files : List PlacedFile) : Nat :=
  (files.getLast?.map PlacedFile.high).getD 0

/-- A file behind the last one. -/
def addFile (files : List PlacedFile) (name text : String) :
    Except CodeMapFault (List PlacedFile × PlacedFile) :=
  let file : PlacedFile := ⟨name, text, lastPosition files + 1⟩
  if file.high < 4294967296 then .ok (files ++ [file], file)
  else .error .full

/-- The file of a position. -/
def fileOf (files : List PlacedFile) (position : Nat) :
    Except CodeMapFault PlacedFile :=
  match files.find? fun f => f.low ≤ position ∧ position ≤ f.high with
  | none => .error .unknownPosition
  | some file => .ok file

def lookUp (files : List PlacedFile) (r : Region) :
    Except CodeMapFault (RegionPlace PlacedFile) := do
  let first ← fileOf files r.low
  let start ← first.placeOf r.low
  let last ← fileOf files r.high
  let stop ← last.placeOf r.high
  return ⟨first, start, stop⟩

def subregion (r : Region) (start stop : Nat) : Except CodeMapFault Region :=
  if stop < start then .error .endBeforeBegin
  else if r.high < r.low + stop then .error .beyondRegion
  else .ok ⟨r.low + start, r.low + stop⟩

end BytePositions

open BytePositions in
/-- Code maps that number the bytes of their files one after the other. -/
def bytePositions : CodeMaps (List PlacedFile) PlacedFile where
  empty := []
  addFile := addFile
  name := PlacedFile.name
  source := PlacedFile.source
  region f := ⟨f.low, f.high⟩
  numLines f := f.lineStarts.length
  sourceLine := PlacedFile.sourceLine
  lineRegion := PlacedFile.lineRegion
  subregion := subregion
  lookUp := lookUp
  slice := PlacedFile.slice

end SchemaTables
