/-
  SchemaTables.Sdl.Position
  ─────────────────────────
  **LINES AND COLUMNS.**

  Both are counted from one, columns in characters.  Two ways of counting are
  in use, which differ only at carriage returns:

      Position.afterText    a carriage return goes back to column one of the
                            same line, so with the line feed after it it is
                            one line break
      Position.afterLines   a carriage return before a line feed belongs to
                            the line break, any other is a column

  The first locates definitions, the second syntax errors.
-/

namespace SchemaTables.Sdl

/-- A place in a text. -/
structure Position where
  line : Nat
  column : Nat
  deriving DecidableEq, Repr, Inhabited

namespace Position

/-- The beginning of a text. -/
def start : Position := ⟨1, 1⟩

/-- The place after one more character. -/
def step (p : Position) (c : Char) : Position :=
  if c = '\n' then ⟨p.line + 1, 1⟩
  else if c = '\r' then ⟨p.line, 1⟩
  else ⟨p.line, p.column + 1⟩

/-- The place at the end of a text. -/
def afterText (cs : List Char) : Position := cs.foldl step start

/-- The place after a text that begins at `p`, where a carriage return is a
column unless a line feed follows. -/
def advanceLines (p : Position) : List Char → Position
  | [] => p
  | '\r' :: '\n' :: rest => advanceLines ⟨p.line + 1, 1⟩ rest
  | '\n' :: rest => advanceLines ⟨p.line + 1, 1⟩ rest
  | _ :: rest => advanceLines ⟨p.line, p.column + 1⟩ rest

/-- The place at the end of a text, for syntax errors. -/
def afterLines (cs : List Char) : Position := advanceLines start cs

end Position

end SchemaTables.Sdl
