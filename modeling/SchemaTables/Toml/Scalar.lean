/-
  SchemaTables.Toml.Scalar
  ────────────────────────
  **NUMBERS, DATES AND TIMES OF A TOML FILE.**

  A settings file has no use for them, so they are only told from text that
  is no value at all.
-/

namespace SchemaTables.Toml

/-! ## §1. Numbers. -/

/-- Digits with single underscores between them. -/
def isDigits (digit : Char → Bool) : List Char → Bool
  | [] => false
  | [c] => digit c
  | c :: '_' :: rest => digit c && isDigits digit rest
  | c :: rest => digit c && isDigits digit rest

/-- Is this a hexadecimal digit? -/
def isHex (c : Char) : Bool :=
  c.isDigit || ('a' ≤ c && c ≤ 'f') || ('A' ≤ c && c ≤ 'F')

/-- A text without the sign in front. -/
def dropSign : List Char → List Char
  | '+' :: rest => rest
  | '-' :: rest => rest
  | cs => cs

/-- Decimal digits without needless zeros in front. -/
def isWhole : List Char → Bool
  | ['0'] => true
  | '0' :: _ => false
  | cs => isDigits Char.isDigit cs

/-- Is this an integer? -/
def isInteger : List Char → Bool
  | '0' :: 'x' :: ds => isDigits isHex ds
  | '0' :: 'o' :: ds => isDigits (fun c => '0' ≤ c && c ≤ '7') ds
  | '0' :: 'b' :: ds => isDigits (fun c => c = '0' || c = '1') ds
  | cs => isWhole (dropSign cs)

/-- Is this a fraction, an exponent or both? -/
def isFloatTail : List Char → Bool
  | '.' :: rest =>
      let digits := rest.takeWhile fun c => c.isDigit || c = '_'
      isDigits Char.isDigit digits &&
        match rest.drop digits.length with
        | [] => true
        | e :: power =>
            (e = 'e' || e = 'E') && isDigits Char.isDigit (dropSign power)
  | e :: power =>
      (e = 'e' || e = 'E') && isDigits Char.isDigit (dropSign power)
  | [] => false

/-- Is this a number that is no integer? -/
def isFloat (cs : List Char) : Bool :=
  let cs := dropSign cs
  let whole := cs.takeWhile fun c => c.isDigit || c = '_'
  cs = ['i', 'n', 'f'] || cs = ['n', 'a', 'n']
    || (isWhole whole && isFloatTail (cs.drop whole.length))

/-! ## §2. Dates and times. -/

/-- The number that two digits write. -/
def twoDigits? (a b : Char) : Option Nat :=
  if a.isDigit && b.isDigit then
    some ((a.toNat - 48) * 10 + (b.toNat - 48))
  else none

/-- Number of days of a month. -/
def daysIn (year month : Nat) : Nat :=
  if month = 2 then
    if year % 4 = 0 && (year % 100 != 0 || year % 400 = 0) then 29 else 28
  else if month = 4 || month = 6 || month = 9 || month = 11 then 30
  else 31

/-- The text after a date. -/
def date? : List Char → Option (List Char)
  | a :: b :: c :: d :: '-' :: e :: f :: '-' :: g :: h :: rest => do
      let century ← twoDigits? a b
      let year ← twoDigits? c d
      let month ← twoDigits? e f
      let day ← twoDigits? g h
      if 1 ≤ month && month ≤ 12 && 1 ≤ day
          && day ≤ daysIn (century * 100 + year) month then
        return rest
      else none
  | _ => none

/-- The text after a time of day, seconds and their fraction optional. -/
def time? : List Char → Option (List Char)
  | a :: b :: ':' :: c :: d :: rest => do
      let hour ← twoDigits? a b
      let minute ← twoDigits? c d
      if 23 < hour || 59 < minute then none
      else
        match rest with
        | ':' :: e :: f :: rest =>
            let second ← twoDigits? e f
            if 60 < second then none
            else
              match rest with
              | '.' :: digits =>
                  let n := (digits.takeWhile Char.isDigit).length
                  if n = 0 then none else return digits.drop n
              | rest => return rest
        | rest => return rest
  | _ => none

/-- Is this a distance from universal time, or nothing? -/
def isOffset : List Char → Bool
  | [] => true
  | ['Z'] => true
  | ['z'] => true
  | sign :: a :: b :: ':' :: c :: [d] =>
      (sign = '+' || sign = '-')
        && (twoDigits? a b).any (· ≤ 23) && (twoDigits? c d).any (· ≤ 59)
  | _ => false

/-- Is this a date, a time of day, or both? -/
def isDateTime (cs : List Char) : Bool :=
  match date? cs with
  | some [] => true
  | some (t :: rest) =>
      (t = 'T' || t = 't' || t = ' ') && (time? rest).any isOffset
  | none => (time? cs).any List.isEmpty

/-! ## §3. Scalars. -/

/-- May a number, a date or a time hold this character? -/
def isScalarChar (c : Char) : Bool :=
  c.isAlphanum || c = '+' || c = '-' || c = '_' || c = '.' || c = ':'

/-- The characters of a scalar at the front of a text: a blank belongs to it
between a date and a time. -/
def scalarPart (cs : List Char) : List Char :=
  let first := cs.takeWhile isScalarChar
  match cs.drop first.length with
  | ' ' :: d :: rest =>
      if date? first = some [] && d.isDigit then
        first ++ ' ' :: (d :: rest).takeWhile isScalarChar
      else first
  | _ => first

/-- Is this a number, a date or a time? -/
def isScalar (cs : List Char) : Bool :=
  isInteger cs || isFloat cs || isDateTime cs

end SchemaTables.Toml
