/-
  SchemaTables.Text.Pattern
  ─────────────────────────
  **PATTERNS WITH GROUPS, MATCHED IN ORDER OF PREFERENCE.**

  The patterns of this module repeat nothing more than once, so all matches
  of a pattern from one place can be listed: an earlier alternative comes
  before a later one, and an optional part is rather taken than left out.
  `Pattern.search` takes the leftmost place with a match and there the first
  of its matches.

  Groups are recorded in the order in which they match; a group that lies on
  a branch not taken leaves no record.

  Letters are compared without regard to case.
-/
import SchemaTables.Text.WordChar

namespace SchemaTables.Text

/-! ## §1. Letters without case. -/

/-- The small letter that a character is compared as.  Besides the capitals
these are the two letters outside ASCII that count as one inside it, the long
s and the Kelvin sign, and the capital of the one accented letter that the
patterns name. -/
def fold (c : Char) : Char :=
  if c.toNat < 128 then c.toLower
  else if c.toNat = 0x17F then 's'
  else if c.toNat = 0x212A then 'k'
  else if c.toNat = 0xC9 then Char.ofNat 0xE9
  else c

/-! ## §2. Patterns. -/

/-- A pattern. -/
inductive Pattern where
  /-- Nothing at all. -/
  | nothing
  /-- One character whose small letter passes the test. -/
  | one (test : Char → Bool)
  | seq (first second : Pattern)
  | alt (first second : Pattern)
  | opt (inner : Pattern)
  | group (inner : Pattern)
  /-- The beginning of the text. -/
  | atStart
  /-- The end of the text. -/
  | atEnd
  /-- A place between a character of a word and one that is none. -/
  | wordEdge

namespace Pattern

instance : AndThen Pattern := ⟨fun a b => .seq a (b ())⟩
instance : OrElse Pattern := ⟨fun a b => .alt a (b ())⟩

/-- Exactly these small letters. -/
def word (s : String) : Pattern :=
  s.toList.foldr (fun c p => .seq (.one (fold · = c)) p) .nothing

/-- One of these small letters. -/
def oneOf (s : String) : Pattern := .one fun c => s.toList.contains (fold c)

/-- One character, but none of these small letters. -/
def noneOf (s : String) : Pattern :=
  .one fun c => !s.toList.contains (fold c)

/-- One of these words, the first that fits preferred. -/
def anyWord : List String → Pattern
  | [] => .one fun _ => false
  | [s] => word s
  | s :: rest => .alt (word s) (anyWord rest)

/-! ## §3. Matching. -/

/-- A place in a text, and the groups matched on the way to it. -/
structure Place where
  previous : Option Char
  rest : List Char
  groups : List (List Char)

/-- Does a character of a word stand just before the place? -/
def Place.afterWordChar (p : Place) : Bool := p.previous.any isWordChar

/-- Does a character of a word stand just after the place? -/
def Place.beforeWordChar (p : Place) : Bool := p.rest.head?.any isWordChar

/-- The places at which a match from `p` may end, the preferred one first. -/
def ends : Pattern → Place → List Place
  | .nothing, p => [p]
  | .one test, p =>
      match p.rest with
      | [] => []
      | c :: rest =>
          if test c then [{ p with previous := some c, rest := rest }] else []
  | .seq a b, p => (a.ends p).flatMap b.ends
  | .alt a b, p => a.ends p ++ b.ends p
  | .opt a, p => a.ends p ++ [p]
  | .group a, p =>
      (a.ends p).map fun q =>
        { q with
          groups := q.groups ++
            [p.rest.take (p.rest.length - q.rest.length)] }
  | .atStart, p => if p.previous.isNone then [p] else []
  | .atEnd, p => if p.rest.isEmpty then [p] else []
  | .wordEdge, p =>
      if p.afterWordChar != p.beforeWordChar then [p] else []

/-- A match inside a text: what stands before it, the match as a whole
followed by its groups, and what stands after it. -/
structure Match where
  before : List Char
  groups : List (List Char)
  after : List Char

/-- Search from a place; `before` is the text up to it, last first. -/
def searchFrom (pattern : Pattern) (before : List Char) :
    List Char → Option Match
  | [] =>
      (pattern.ends ⟨before.head?, [], []⟩).head?.map fun q =>
        ⟨before.reverse, [] :: q.groups, q.rest⟩
  | c :: rest =>
      match (pattern.ends ⟨before.head?, c :: rest, []⟩).head? with
      | some q =>
          some ⟨before.reverse,
            (c :: rest).take ((c :: rest).length - q.rest.length) :: q.groups,
            q.rest⟩
      | none => searchFrom pattern (c :: before) rest

/-- The leftmost match in a text. -/
def search (pattern : Pattern) (text : List Char) : Option Match :=
  pattern.searchFrom [] text

end Pattern

end SchemaTables.Text
