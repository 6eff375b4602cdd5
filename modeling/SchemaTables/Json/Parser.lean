/-
  SchemaTables.Json.Parser
  ────────────────────────
  **READING JSON TEXT.**

  `Json.parse?` reads one value that fills the whole text.  Members keep the
  order in which they are written; of two members with one name the first
  gives the place and the last the value.

  Values nest, so the reader carries a bound on the depth of its calls.  Of
  two calls inside each other at least one has consumed a character, which
  makes twice the length of the text a sufficient bound.
-/
import SchemaTables.Json

namespace SchemaTables.Json

/-! ## §1. Tokens. -/

/-- Blanks between tokens. -/
def isBlank (c : Char) : Bool := c = ' ' || c = '\n' || c = '\r' || c = '\t'

/-- The text from its first character that is no blank. -/
def skipBlanks (cs : List Char) : List Char := cs.dropWhile isBlank

/-- The value of a hexadecimal digit. -/
def hexValue? (c : Char) : Option Nat :=
  if c.isDigit then some (c.toNat - 48)
  else if 'a' ≤ c && c ≤ 'f' then some (c.toNat - 87)
  else if 'A' ≤ c && c ≤ 'F' then some (c.toNat - 55)
  else none

/-- The number written by four hexadecimal digits. -/
def hexUnit? (a b c d : Char) : Option Nat := do
  let a ← hexValue? a
  let b ← hexValue? b
  let c ← hexValue? c
  let d ← hexValue? d
  return ((a * 16 + b) * 16 + c) * 16 + d

/-- The character a backslash and a letter stand for. -/
def shortEscape? : Char → Option Char
  | '"' => some '"'
  | '\\' => some '\\'
  | '/' => some '/'
  | 'b' => some '\x08'
  | 'f' => some '\x0c'
  | 'n' => some '\n'
  | 'r' => some '\r'
  | 't' => some '\t'
  | _ => none

/-- The rest of a string after its opening quote; `done` holds the characters
read so far, last first.  Two escaped surrogates make one character. -/
def readString (done : List Char) :
    List Char → Option (String × List Char)
  | '"' :: rest => some (String.ofList done.reverse, rest)
  | '\\' :: 'u' :: a :: b :: c :: d ::
      '\\' :: 'u' :: e :: f :: g :: h :: rest =>
      match hexUnit? a b c d, hexUnit? e f g h with
      | some hi, some lo =>
          if 0xD800 ≤ hi && hi < 0xDC00 && 0xDC00 ≤ lo && lo < 0xE000 then
            let n := 0x10000 + (hi - 0xD800) * 0x400 + (lo - 0xDC00)
            readString (Char.ofNat n :: done) rest
          else
            readString (Char.ofNat hi :: done)
              ('\\' :: 'u' :: e :: f :: g :: h :: rest)
      | _, _ => none
  | '\\' :: 'u' :: a :: b :: c :: d :: rest =>
      match hexUnit? a b c d with
      | some n => readString (Char.ofNat n :: done) rest
      | none => none
  | '\\' :: c :: rest =>
      match shortEscape? c with
      | some e => readString (e :: done) rest
      | none => none
  | c :: rest => if c.toNat < 32 then none else readString (c :: done) rest
  | [] => none
termination_by cs => cs.length

/-- Characters that a number may hold. -/
def isNumberChar (c : Char) : Bool :=
  c.isDigit || c = '-' || c = '+' || c = '.' || c = 'e' || c = 'E'

/-- An exponent, or nothing. -/
def isExponent : List Char → Bool
  | [] => true
  | e :: '+' :: ds => (e = 'e' || e = 'E') && !ds.isEmpty && ds.all Char.isDigit
  | e :: '-' :: ds => (e = 'e' || e = 'E') && !ds.isEmpty && ds.all Char.isDigit
  | e :: ds => (e = 'e' || e = 'E') && !ds.isEmpty && ds.all Char.isDigit

/-- A fraction and an exponent, either of which may be missing. -/
def isFraction : List Char → Bool
  | '.' :: ds =>
      !(ds.takeWhile Char.isDigit).isEmpty
        && isExponent (ds.dropWhile Char.isDigit)
  | cs => isExponent cs

/-- Is this the literal of a number? -/
def isNumber : List Char → Bool
  | '-' :: '0' :: rest => isFraction rest
  | '0' :: rest => isFraction rest
  | '-' :: d :: rest => d.isDigit && isFraction (rest.dropWhile Char.isDigit)
  | d :: rest => d.isDigit && isFraction (rest.dropWhile Char.isDigit)
  | [] => false

/-! ## §2. Values. -/

mutual

/-- A value at the start of the text, blanks before it skipped. -/
def readValue : Nat → List Char → Option (Json × List Char)
  | 0, _ => none
  | fuel + 1, cs =>
      match skipBlanks cs with
      | '"' :: rest => (readString [] rest).map fun r => (.string r.1, r.2)
      | '[' :: rest =>
          match skipBlanks rest with
          | ']' :: rest => some (.array [], rest)
          | rest => readItems fuel [] rest
      | '{' :: rest =>
          match skipBlanks rest with
          | '}' :: rest => some (.object [], rest)
          | rest => readMembers fuel [] rest
      | 't' :: 'r' :: 'u' :: 'e' :: rest => some (.bool true, rest)
      | 'f' :: 'a' :: 'l' :: 's' :: 'e' :: rest => some (.bool false, rest)
      | 'n' :: 'u' :: 'l' :: 'l' :: rest => some (.null, rest)
      | rest =>
          let literal := rest.takeWhile isNumberChar
          if isNumber literal then
            some (.number (String.ofList literal), rest.dropWhile isNumberChar)
          else none

/-- The items of an array after its opening bracket, last first in `done`. -/
def readItems :
    Nat → List Json → List Char → Option (Json × List Char)
  | 0, _, _ => none
  | fuel + 1, done, cs => do
      let (item, rest) ← readValue fuel cs
      match skipBlanks rest with
      | ',' :: rest => readItems fuel (item :: done) rest
      | ']' :: rest => some (.array (item :: done).reverse, rest)
      | _ => none

/-- The members of an object after its opening brace, last first in `done`. -/
def readMembers :
    Nat → List (String × Json) → List Char → Option (Json × List Char)
  | 0, _, _ => none
  | fuel + 1, done, cs =>
      match skipBlanks cs with
      | '"' :: rest => do
          let (name, rest) ← readString [] rest
          match skipBlanks rest with
          | ':' :: rest =>
              let (value, rest) ← readValue fuel rest
              match skipBlanks rest with
              | ',' :: rest => readMembers fuel ((name, value) :: done) rest
              | '}' :: rest =>
                  some (.object (merge ((name, value) :: done).reverse), rest)
              | _ => none
          | _ => none
      | _ => none
where
  /-- Members with distinct names. -/
  merge (ms : List (String × Json)) : List (String × Json) :=
    (OrderedMap.ofList ms).entries

end

/-- The value that the whole text writes. -/
def parse? (text : String) : Option Json :=
  let cs := text.toList
  match readValue (2 * cs.length + 2) cs with
  | some (j, rest) => if (skipBlanks rest).isEmpty then some j else none
  | none => none

end SchemaTables.Json
