/-
  SchemaTables.Diagnostic
  ───────────────────────
  **SHOWING AN ERROR IN ITS SOURCE.**

  A diagnostic is a message about a span.  Its picture names the file and the
  place, shows the line with its number, and marks the span below it:

      error[C000]: <message>
       --> <path>:<line>:<column>
        |
      3 |   books: [Book] @hasMany
        |   ^^^^^^^^^^^^^^^^^^^^^^
-/
import SchemaTables.SourceMap

namespace SchemaTables

open Elaboration

/-- A message about a part of a file. -/
structure Diagnostic where
  message : String
  span : Span
  deriving DecidableEq, Repr

namespace Diagnostic

/-- The diagnostic for a message about a location, if that is inside the
files. -/
def at? (m : SourceMap) (location : Location) (message : String) :
    Option Diagnostic :=
  (m.span? location).map fun span => ⟨message, span⟩

/-- A text of `n` spaces. -/
def spaces (n : Nat) : String := String.ofList (List.replicate n ' ')

/-- The marks below a line: blanks up to the first marked column, tabs where
the line has tabs, then one mark per character, at least one. -/
def marks (line : List Char) (start count : Nat) : String :=
  let blank := (line.take start).map fun c => if c = '\t' then '\t' else ' '
  String.ofList (blank ++ List.replicate (max count 1) '^')

/-- The picture of a diagnostic. -/
def render (m : SourceMap) (d : Diagnostic) : String :=
  match m.view? d.span, m.files[d.span.file]? with
  | some view, some file =>
      let line :=
        trimLineEnd
          (((splitLines file.text.toList)[view.stop.line]?).getD [])
      let number := toString (view.stop.line + 1)
      let pad := spaces number.length
      "error[C000]: " ++ d.message ++ "\n"
        ++ pad ++ "--> " ++ view.path ++ ":"
        ++ toString (view.start.line + 1) ++ ":"
        ++ toString (view.start.column + 1) ++ "\n"
        ++ pad ++ " |\n"
        ++ number ++ " | " ++ String.ofList line ++ "\n"
        ++ pad ++ " | "
        ++ marks line view.start.column (d.span.stop - d.span.start)
        ++ "\n\n"
  | _, _ => ""

end Diagnostic

end SchemaTables
