/-
  SchemaTables.SourceMap
  ──────────────────────
  **PLACES IN THE LOADED FILES.**

  Errors are located by document, line and column, all but the first counted
  from one.  A source map holds the texts of the documents and turns such a
  location into a span: the rest of the line from that column on, as offsets
  in the text of its file.  Looking a span up gives back its lines and
  columns, counted from zero, and the text that it covers.

  Lines end at line feeds, so a text has one line more than it has line feeds
  (`length_splitLines`).  A carriage return at the end of a line belongs to
  its end.
-/
import SchemaTables.Elaboration.Error

namespace SchemaTables

open Elaboration

/-! ## §1. Files and lines. -/

/-- A file that was read. -/
structure SourceFile where
  path : String
  text : String
  deriving DecidableEq, Repr

/-- Split at line feeds; `line` is the current line, last character first. -/
def splitLinesFrom (line : List Char) : List Char → List (List Char)
  | [] => [line.reverse]
  | c :: rest =>
      if c = '\n' then line.reverse :: splitLinesFrom [] rest
      else splitLinesFrom (c :: line) rest

/-- The lines of a text. -/
def splitLines (text : List Char) : List (List Char) := splitLinesFrom [] text

theorem length_splitLinesFrom (line text : List Char) :
    (splitLinesFrom line text).length = text.count '\n' + 1 := by
  induction text generalizing line with
  | nil => simp [splitLinesFrom]
  | cons c rest ih =>
      by_cases h : c = '\n' <;> simp [splitLinesFrom, h, ih]

/-- There is one line more than line feeds. -/
theorem length_splitLines (text : List Char) :
    (splitLines text).length = text.count '\n' + 1 :=
  length_splitLinesFrom [] text

/-- A line without the carriage returns at its end. -/
def trimLineEnd (line : List Char) : List Char :=
  (line.reverse.dropWhile fun c => c = '\r' || c = '\n').reverse

/-- The offset at which line number `n` begins, counted from zero. -/
def lineStart (lines : List (List Char)) (n : Nat) : Nat :=
  (lines.take n).foldl (fun offset line => offset + line.length + 1) 0

/-! ## §2. Spans. -/

/-- A part of a file, from one offset up to another. -/
structure Span where
  file : Nat
  start : Nat
  stop : Nat
  deriving DecidableEq, Repr

/-- A line and a column, counted from zero. -/
structure LineColumn where
  line : Nat
  column : Nat
  deriving DecidableEq, Repr

/-- The place of an offset in a text. -/
def lineColumnOf (text : List Char) (offset : Nat) : LineColumn :=
  (text.take offset).foldl
    (fun p c => if c = '\n' then ⟨p.line + 1, 0⟩ else ⟨p.line, p.column + 1⟩)
    ⟨0, 0⟩

/-- What a span covers. -/
structure SpanView where
  path : String
  start : LineColumn
  stop : LineColumn
  text : String
  deriving DecidableEq, Repr

/-- The files that locations refer to, in order. -/
structure SourceMap where
  files : List SourceFile

namespace SourceMap

/-- The span from a location to the end of its line. -/
def span? (m : SourceMap) (location : Location) : Option Span := do
  let file ← m.files[location.document]?
  if location.position.line = 0 then none
  else
    let n := location.position.line - 1
    let lines := splitLines file.text.toList
    let line ← lines[n]?
    let visible := trimLineEnd line
    let column := min (location.position.column - 1) visible.length
    let start := lineStart lines n
    return ⟨location.document, start + column, start + visible.length⟩

/-- What a span of the map covers. -/
def view? (m : SourceMap) (s : Span) : Option SpanView := do
  let file ← m.files[s.file]?
  let text := file.text.toList
  return {
    path := file.path
    start := lineColumnOf text s.start
    stop := lineColumnOf text s.stop
    text := String.ofList ((text.drop s.start).take (s.stop - s.start)) }

end SourceMap

end SchemaTables
