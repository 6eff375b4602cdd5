/-
  SchemaTables.Toml.Statement
  ───────────────────────────
  **THE STATEMENTS OF A TOML FILE.**

  A file is a list of headers, which open a table, and of assignments to keys
  of the table that was opened last.  `Toml.parse?` reads the statements; what
  tables they make, and whether they contradict each other, is for the reader
  of the settings to say.
-/
import SchemaTables.Toml.Scalar
import SchemaTables.Toml.Text

namespace SchemaTables.Toml

/-! ## §1. Values. -/

/-- A value. -/
inductive Value where
  | string (value : String)
  | boolean (value : Bool)
  /-- A number, a date or a time. -/
  | scalar
  | array (items : List Value)
  /-- A table on one line: its assignments. -/
  | table (entries : List (List String × Value))

/-- Does one key say where another one lies, or the same as it? -/
def overlaps (a b : List String) : Bool := a.isPrefixOf b || b.isPrefixOf a

/-- Is no key given twice, or given both a value and keys below it? -/
def areDistinct : List (List String) → Bool
  | [] => true
  | k :: rest => !rest.any (overlaps k) && areDistinct rest

mutual

/-- A value at the front of a text; `fuel` bounds the depth of the calls. -/
def value? : Nat → List Char → Option (Value × List Char)
  | 0, _ => none
  | fuel + 1, cs =>
      match cs with
      | '[' :: rest => items? fuel [] rest
      | '{' :: rest => entries? fuel [] rest
      | '"' :: _ => (string? cs).map fun r => (.string r.1, r.2)
      | '\'' :: _ => (string? cs).map fun r => (.string r.1, r.2)
      | cs =>
          let part := scalarPart cs
          let rest := cs.drop part.length
          if part = "true".toList then some (.boolean true, rest)
          else if part = "false".toList then some (.boolean false, rest)
          else if isScalar part then some (.scalar, rest)
          else none

/-- The items of an array after its bracket or a comma, last first in
`done`. -/
def items? : Nat → List Value → List Char → Option (Value × List Char)
  | 0, _, _ => none
  | fuel + 1, done, cs =>
      match skipLines (cs.length + 1) cs with
      | ']' :: rest => some (.array done.reverse, rest)
      | cs => do
          let (item, rest) ← value? fuel cs
          match skipLines (rest.length + 1) rest with
          | ',' :: rest => items? fuel (item :: done) rest
          | ']' :: rest => return (.array (item :: done).reverse, rest)
          | _ => none

/-- The assignments of a table after its brace or a comma, last first in
`done`. -/
def entries? : Nat → List (List String × Value) → List Char →
    Option (Value × List Char)
  | 0, _, _ => none
  | fuel + 1, done, cs =>
      match skipLines (cs.length + 1) cs with
      | '}' :: rest => close done rest
      | cs => do
          let (key, rest) ← key? cs.length cs
          match rest with
          | '=' :: rest =>
              let (value, rest) ← value? fuel (skipSpaces rest)
              match skipLines (rest.length + 1) rest with
              | ',' :: rest => entries? fuel ((key, value) :: done) rest
              | '}' :: rest => close ((key, value) :: done) rest
              | _ => none
          | _ => none
where
  /-- The table with these assignments. -/
  close (done : List (List String × Value)) (rest : List Char) :
      Option (Value × List Char) :=
    if areDistinct (done.map Prod.fst) then
      some (.table done.reverse, rest)
    else none

end

/-! ## §2. Statements. -/

/-- A statement of a file. -/
inductive Statement where
  /-- Open a table. -/
  | header (key : List String)
  /-- Open a new table of a list. -/
  | listHeader (key : List String)
  | assign (key : List String) (value : Value)

/-- The statement at the front of a line, and the text after it. -/
def statement? (cs : List Char) : Option (Statement × List Char) :=
  match cs with
  | '[' :: '[' :: rest => do
      let (key, rest) ← key? rest.length rest
      match rest with
      | ']' :: ']' :: rest => return (.listHeader key, rest)
      | _ => none
  | '[' :: rest => do
      let (key, rest) ← key? rest.length rest
      match rest with
      | ']' :: rest => return (.header key, rest)
      | _ => none
  | cs => do
      let (key, rest) ← key? cs.length cs
      match rest with
      | '=' :: rest =>
          let (value, rest) ← value? (2 * rest.length + 2) (skipSpaces rest)
          return (.assign key value, rest)
      | _ => none

/-- The statements of a text; each has a line of its own. -/
def statements? : Nat → List Char → Option (List Statement)
  | 0, _ => none
  | fuel + 1, cs =>
      match skipLines (cs.length + 1) cs with
      | [] => some []
      | cs => do
          let (s, rest) ← statement? cs
          let rest ← lineEnd? rest
          let others ← statements? fuel rest
          return s :: others

/-- The statements of a file; a byte order mark in front is skipped. -/
def parse? (text : String) : Option (List Statement) :=
  let cs := text.toList
  let cs := if cs.head?.any (·.toNat = 0xFEFF) then cs.tail else cs
  statements? (cs.length + 1) cs

end SchemaTables.Toml
