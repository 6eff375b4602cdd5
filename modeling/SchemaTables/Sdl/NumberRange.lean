/-
  SchemaTables.Sdl.NumberRange
  ────────────────────────────
  **NUMBERS THAT ARE TOO LARGE.**

  A number is held as a significand of 64 bits, which drops the digits that
  no longer fit, and a power of ten.  It is read as the product of the two as
  binary floating point numbers of 53 bits, and is out of range when that
  product would round to infinity.
-/

namespace SchemaTables.Sdl

/-! ## §1. Significand and exponent. -/

/-- Take digits into a significand of 64 bits while they fit; the digits
left over come last. -/
def takeDigits (significand : Nat) : List Char → Nat × List Char
  | [] => (significand, [])
  | c :: rest =>
      let next := significand * 10 + (c.toNat - 48)
      if next < Nat.pow 2 64 then takeDigits next rest
      else (significand, c :: rest)

/-- The number that decimal digits write. -/
def digitsValue (cs : List Char) : Nat :=
  cs.foldl (fun n c => n * 10 + (c.toNat - 48)) 0

/-- The exponent after the digits of a number. -/
def exponentValue : List Char → Int
  | _ :: '-' :: ds => -(digitsValue ds : Int)
  | _ :: '+' :: ds => digitsValue ds
  | _ :: ds => digitsValue ds
  | [] => 0

/-- The significand and the power of ten of a number without its sign. -/
def scientific (cs : List Char) : Nat × Int :=
  let whole := cs.takeWhile Char.isDigit
  let rest := cs.dropWhile Char.isDigit
  let (significand, dropped) := takeDigits 0 whole
  match rest with
  | '.' :: rest =>
      let digits := rest.takeWhile Char.isDigit
      let (significand, unused) := takeDigits significand digits
      let places := digits.length - unused.length
      ( significand,
        dropped.length - places
          + exponentValue (rest.dropWhile Char.isDigit) )
  | rest => (significand, dropped.length + exponentValue rest)

/-! ## §2. The range. -/

/-- Round to 53 significant bits, a half to the even neighbour. -/
def roundTo53 (n : Nat) : Nat :=
  let unit := Nat.pow 2 (n.log2 - 52)
  let q := n / unit
  let r := n % unit
  if unit < 2 * r || (unit = 2 * r && q % 2 = 1) then (q + 1) * unit
  else q * unit

/-- Does a literal write a number that is out of range?  The bound is half a
unit above the largest number of 53 bits. -/
def isOutOfRange (literal : List Char) : Bool :=
  let (significand, power) :=
    scientific (if literal.head? = some '-' then literal.tail else literal)
  significand != 0 &&
    (308 < power ||
      (0 ≤ power &&
        Nat.pow 2 1024 - Nat.pow 2 970
          ≤ roundTo53 significand * roundTo53 (Nat.pow 10 power.toNat)))

end SchemaTables.Sdl
