/-
  SchemaTables.Text.Blank
  ───────────────────────
  **WHITE SPACE.**

  A character is blank when it has the Unicode property White_Space.
-/
import SchemaTables.Text.CodePoints

namespace SchemaTables.Text

/-- White space from U+0080 on. -/
def blankRanges : Array (Nat × Nat) :=
  #[
    (0x85, 0x85), (0xA0, 0xA0), (0x1680, 0x1680), (0x2000, 0x200A),
    (0x2028, 0x2029), (0x202F, 0x202F), (0x205F, 0x205F), (0x3000, 0x3000)
  ]

/-- Is this white space? -/
def isBlank (c : Char) : Bool :=
  if c.toNat < 128 then (9 ≤ c.toNat && c.toNat ≤ 13) || c = ' '
  else inRanges blankRanges c.toNat

/-- Is there nothing but white space? -/
def isAllBlank (s : String) : Bool := s.toList.all isBlank

end SchemaTables.Text
