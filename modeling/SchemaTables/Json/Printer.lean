/-
  SchemaTables.Json.Printer
  ─────────────────────────
  **THE TWO TEXT FORMS OF A JSON VALUE.**

  `Json.compact` writes a value without blanks.  `Json.pretty` writes one item
  or member per line, indented by two spaces per level; an empty array or
  object stays on its line.  Both escape a quote, a backslash and the control
  characters below U+0020, and write every other character as it is.
-/
import SchemaTables.Json

namespace SchemaTables.Json

/-! ## §1. Strings. -/

/-- One hexadecimal digit, in lower case. -/
def hexDigit (n : Nat) : Char :=
  if n < 10 then Char.ofNat (48 + n) else Char.ofNat (87 + n)

/-- The written form of one character inside a string. -/
def escapeChar (c : Char) : List Char :=
  if c = '"' then ['\\', '"']
  else if c = '\\' then ['\\', '\\']
  else if c = '\n' then ['\\', 'n']
  else if c = '\r' then ['\\', 'r']
  else if c = '\t' then ['\\', 't']
  else if c = '\x08' then ['\\', 'b']
  else if c = '\x0c' then ['\\', 'f']
  else if c.toNat < 32 then
    ['\\', 'u', '0', '0', hexDigit (c.toNat / 16), hexDigit (c.toNat % 16)]
  else [c]

/-- A string between quotes. -/
def quote (s : String) : String :=
  "\"" ++ String.ofList (s.toList.flatMap escapeChar) ++ "\""

/-! ## §2. Without blanks. -/

mutual

/-- The text of a value without blanks. -/
def compact : Json → String
  | .null => "null"
  | .bool true => "true"
  | .bool false => "false"
  | .number literal => literal
  | .string s => quote s
  | .array items => "[" ++ compactItems items ++ "]"
  | .object members => "\x7b" ++ compactMembers members ++ "\x7d"

/-- Items separated by commas. -/
def compactItems : List Json → String
  | [] => ""
  | [j] => compact j
  | j :: rest => compact j ++ "," ++ compactItems rest

/-- Members separated by commas. -/
def compactMembers : List (String × Json) → String
  | [] => ""
  | [(k, j)] => quote k ++ ":" ++ compact j
  | (k, j) :: rest =>
      quote k ++ ":" ++ compact j ++ "," ++ compactMembers rest

end

/-! ## §3. One item per line. -/

/-- A line end, followed by the indentation of `depth` levels. -/
def lineBreak (depth : Nat) : String :=
  "\n" ++ String.ofList (List.replicate (2 * depth) ' ')

mutual

/-- The text of a value that stands `depth` levels deep. -/
def prettyAt (depth : Nat) : Json → String
  | .null => "null"
  | .bool true => "true"
  | .bool false => "false"
  | .number literal => literal
  | .string s => quote s
  | .array [] => "[]"
  | .array (j :: rest) =>
      "[" ++ prettyItems (depth + 1) (j :: rest) ++ lineBreak depth ++ "]"
  | .object [] => "\x7b\x7d"
  | .object (m :: rest) =>
      "\x7b" ++ prettyMembers (depth + 1) (m :: rest) ++ lineBreak depth
        ++ "\x7d"

/-- Items, each on a line of its own. -/
def prettyItems (depth : Nat) : List Json → String
  | [] => ""
  | [j] => lineBreak depth ++ prettyAt depth j
  | j :: rest =>
      lineBreak depth ++ prettyAt depth j ++ "," ++ prettyItems depth rest

/-- Members, each on a line of its own. -/
def prettyMembers (depth : Nat) : List (String × Json) → String
  | [] => ""
  | [(k, j)] => lineBreak depth ++ quote k ++ ": " ++ prettyAt depth j
  | (k, j) :: rest =>
      lineBreak depth ++ quote k ++ ": " ++ prettyAt depth j ++ ","
        ++ prettyMembers depth rest

end

/-- The text of a value with one item or member per line. -/
def pretty (j : Json) : String := prettyAt 0 j

end SchemaTables.Json
