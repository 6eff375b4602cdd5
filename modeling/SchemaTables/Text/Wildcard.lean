/-
  SchemaTables.Text.Wildcard
  ──────────────────────────
  **PATTERNS FOR FILE NAMES.**

  In a pattern a star stands for any run of characters, also an empty one, a
  question mark for exactly one character, and every other character for
  itself.  The whole name has to match.
-/

namespace SchemaTables.Text

/-- What is left of a text after dropping any number of its first
characters, the whole text first. -/
def suffixes : List Char → List (List Char)
  | [] => [[]]
  | c :: rest => (c :: rest) :: suffixes rest

/-- Does the pattern match the whole of the text? -/
def wildcardMatches : List Char → List Char → Bool
  | [], text => text.isEmpty
  | p :: pattern, text =>
      if p = '*' then (suffixes text).any (wildcardMatches pattern)
      else
        match text with
        | [] => false
        | c :: rest => (p = '?' || p = c) && wildcardMatches pattern rest

end SchemaTables.Text
