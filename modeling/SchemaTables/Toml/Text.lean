/-
  SchemaTables.Toml.Text
  ──────────────────────
  **KEYS AND STRINGS OF A TOML FILE.**

  The four forms of strings, bare and dotted keys, blanks, comments and line
  ends.  Each reader takes what it reads off the front of the text.
-/

namespace SchemaTables.Toml

/-! ## §1. Blanks. -/

/-- Is this a blank inside a line? -/
def isSpace (c : Char) : Bool := c = ' ' || c = '\t'

/-- The text after the blanks inside a line. -/
def skipSpaces (cs : List Char) : List Char := cs.dropWhile isSpace

/-- Is this a control character other than a tab? -/
def isControl (c : Char) : Bool :=
  (c.toNat < 32 && c != '\t') || c.toNat = 127

/-- The text after a line end, if it begins with one. -/
def newline? : List Char → Option (List Char)
  | '\n' :: rest => some rest
  | '\r' :: '\n' :: rest => some rest
  | _ => none

/-- Does the rest of a line hold nothing but blanks and a comment?  The text
after that line. -/
def lineEnd? (cs : List Char) : Option (List Char) :=
  let rest :=
    match skipSpaces cs with
    | '#' :: comment => comment.dropWhile fun c => !isControl c
    | rest => rest
  if rest.isEmpty then some [] else newline? rest

/-- The text after blanks, comments and line ends. -/
def skipLines : Nat → List Char → List Char
  | 0, cs => cs
  | fuel + 1, cs =>
      let rest := skipSpaces cs
      match lineEnd? rest with
      | some next => if rest.isEmpty then rest else skipLines fuel next
      | none => rest

/-! ## §2. Strings. -/

/-- The value of hexadecimal digits. -/
def hexNumber? (cs : List Char) : Option Nat :=
  cs.foldlM (fun n c =>
    if c.isDigit then some (n * 16 + (c.toNat - 48))
    else if 'a' ≤ c && c ≤ 'f' then some (n * 16 + (c.toNat - 87))
    else if 'A' ≤ c && c ≤ 'F' then some (n * 16 + (c.toNat - 55))
    else none) 0

/-- The character of a code point that is no surrogate. -/
def scalar? (n : Nat) : Option Char :=
  if n < 0xD800 || (0xDFFF < n && n < 0x110000) then some (Char.ofNat n)
  else none

/-- The character written by the first `n` characters as hexadecimal digits,
and the text after them. -/
def hexEscape? (n : Nat) (cs : List Char) : Option (Char × List Char) :=
  if cs.length < n then none
  else do
    let code ← hexNumber? (cs.take n)
    let c ← scalar? code
    return (c, cs.drop n)

/-- The character of an escape after its backslash, and the text after it. -/
def escape? : List Char → Option (Char × List Char)
  | 'b' :: rest => some ('\x08', rest)
  | 't' :: rest => some ('\t', rest)
  | 'n' :: rest => some ('\n', rest)
  | 'f' :: rest => some ('\x0c', rest)
  | 'r' :: rest => some ('\r', rest)
  | 'e' :: rest => some ('\x1b', rest)
  | '"' :: rest => some ('"', rest)
  | '\\' :: rest => some ('\\', rest)
  | 'x' :: rest => hexEscape? 2 rest
  | 'u' :: rest => hexEscape? 4 rest
  | 'U' :: rest => hexEscape? 8 rest
  | _ => none

/-- The rest of a string in double quotes; `done` holds what is read so far,
last character first, and `fuel` bounds the number of characters. -/
def basic? (done : List Char) :
    Nat → List Char → Option (String × List Char)
  | 0, _ => none
  | fuel + 1, cs =>
      match cs with
      | '"' :: rest => some (String.ofList done.reverse, rest)
      | '\\' :: rest =>
          match escape? rest with
          | some (c, rest) => basic? (c :: done) fuel rest
          | none => none
      | c :: rest => if isControl c then none else basic? (c :: done) fuel rest
      | [] => none

/-- The rest of a string in single quotes. -/
def literal? (cs : List Char) : Option (String × List Char) :=
  let body := cs.takeWhile fun c => c != '\'' && !isControl c
  match cs.drop body.length with
  | '\'' :: rest => some (String.ofList body, rest)
  | _ => none

/-- The text after blanks and line ends. -/
def skipBlankLines : List Char → List Char
  | ' ' :: rest => skipBlankLines rest
  | '\t' :: rest => skipBlankLines rest
  | '\n' :: rest => skipBlankLines rest
  | '\r' :: '\n' :: rest => skipBlankLines rest
  | cs => cs

/-- Is the rest of the line blank?  Then the text from the next character on
that is neither blank nor a line end. -/
def continuation? (cs : List Char) : Option (List Char) :=
  (newline? (skipSpaces cs)).map skipBlankLines

/-- The rest of a string between three quotes `q` on either side; a backslash
escapes if `escapes` is set.  Up to two quotes may stand before the end, and
line ends are kept as they are written. -/
def block? (q : Char) (escapes : Bool) (done : List Char) :
    Nat → List Char → Option (String × List Char)
  | 0, _ => none
  | fuel + 1, cs =>
      match cs with
      | [] => none
      | c :: rest =>
          if c = q && rest.take 2 = [q, q] then
            let more := (rest.drop 2).takeWhile (· = q)
            if more.length ≤ 2 then
              some (String.ofList (more ++ done).reverse,
                rest.drop (2 + more.length))
            else none
          else if escapes && c = '\\' then
            match escape? rest with
            | some (e, rest) => block? q escapes (e :: done) fuel rest
            | none =>
                match continuation? rest with
                | some rest => block? q escapes done fuel rest
                | none => none
          else if c = '\r' && rest.head? = some '\n' then
            block? q escapes ('\n' :: c :: done) fuel rest.tail
          else if isControl c && c != '\n' then none
          else block? q escapes (c :: done) fuel rest

/-- The text after the line end that a block may begin with. -/
def blockStart (cs : List Char) : List Char := (newline? cs).getD cs

/-- A string of any form. -/
def string? : List Char → Option (String × List Char)
  | '"' :: '"' :: '"' :: rest =>
      let rest := blockStart rest
      block? '"' true [] (rest.length + 1) rest
  | '\'' :: '\'' :: '\'' :: rest =>
      let rest := blockStart rest
      block? '\'' false [] (rest.length + 1) rest
  | '"' :: rest => basic? [] (rest.length + 1) rest
  | '\'' :: rest => literal? rest
  | _ => none

/-! ## §3. Keys. -/

/-- May a key without quotes hold this character? -/
def isKeyChar (c : Char) : Bool := c.isAlphanum || c = '_' || c = '-'

/-- One key: bare, or a string on one line. -/
def simpleKey? (cs : List Char) : Option (String × List Char) :=
  match cs with
  | '"' :: rest => basic? [] (rest.length + 1) rest
  | '\'' :: rest => literal? rest
  | cs =>
      let key := cs.takeWhile isKeyChar
      if key.isEmpty then none
      else some (String.ofList key, cs.drop key.length)

/-- Keys separated by dots, blanks around them allowed; `fuel` bounds their
number. -/
def key? : Nat → List Char → Option (List String × List Char)
  | 0, _ => none
  | fuel + 1, cs => do
      let (first, rest) ← simpleKey? (skipSpaces cs)
      match skipSpaces rest with
      | '.' :: rest =>
          let (others, rest) ← key? fuel rest
          return (first :: others, rest)
      | rest => return ([first], rest)

end SchemaTables.Toml
