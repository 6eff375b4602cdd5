/-
  SchemaTables.Sdl.StringValue
  ────────────────────────────
  **THE TEXT THAT A STRING WRITES.**

  Between single quotes a backslash begins an escape.  Between triple quotes
  nothing is escaped; instead the lines lose the indentation that they have in
  common, and blank lines at both ends are dropped.
-/

namespace SchemaTables.Sdl

/-! ## §1. One line. -/

/-- The value of a hexadecimal digit. -/
def hexDigitValue (c : Char) : Nat :=
  if c.isDigit then c.toNat - 48
  else if c.toNat < 91 then c.toNat - 55
  else c.toNat - 87

/-- Replace the escapes in the text between two quotes. -/
def unescape : List Char → List Char
  | '\\' :: 'u' :: a :: b :: c :: d :: rest =>
      Char.ofNat ([a, b, c, d].foldl (fun n x => n * 16 + hexDigitValue x) 0)
        :: unescape rest
  | '\\' :: c :: rest => simple c :: unescape rest
  | c :: rest => c :: unescape rest
  | [] => []
where
  /-- The character for the letter after a backslash. -/
  simple (c : Char) : Char :=
    if c = 'b' then '\x08'
    else if c = 'f' then '\x0c'
    else if c = 'n' then '\n'
    else if c = 'r' then '\r'
    else if c = 't' then '\t'
    else c

/-! ## §2. Blocks. -/

/-- The lines of a text; `line` is the current one, last character first. -/
def linesFrom (line : List Char) : List Char → List (List Char)
  | '\r' :: '\n' :: rest => line.reverse :: linesFrom [] rest
  | '\r' :: rest => line.reverse :: linesFrom [] rest
  | '\n' :: rest => line.reverse :: linesFrom [] rest
  | c :: rest => linesFrom (c :: line) rest
  | [] => [line.reverse]

/-- Is this a character of an indentation? -/
def isIndent (c : Char) : Bool := c = ' ' || c = '\t'

/-- Does a line hold nothing but indentation? -/
def isBlankLine (line : List Char) : Bool := line.all isIndent

/-- The indentation that all lines that are not blank have in common. -/
def commonIndent (lines : List (List Char)) : Nat :=
  let indents := (lines.filter fun l => !isBlankLine l).map fun l =>
    (l.takeWhile isIndent).length
  match indents with
  | [] => 0
  | n :: ns => ns.foldl min n

/-- Remove `n` characters from a line that has as many. -/
def dedent (n : Nat) (line : List Char) : List Char :=
  if n ≤ line.length then line.drop n else line

/-- The text of a block: the indentation counts from the second line on. -/
def blockText (cs : List Char) : List Char :=
  match linesFrom [] cs with
  | [] => []
  | first :: others =>
      let lines := first :: others.map (dedent (commonIndent others))
      let kept := lines.dropWhile isBlankLine
      let kept := (kept.reverse.dropWhile isBlankLine).reverse
      List.intercalate ['\n'] kept

end SchemaTables.Sdl
