/-
  SchemaTables.Text.Plural
  ────────────────────────
  **THE PLURAL OF A WORD.**

  An irregular word has its plural from a table; some words have none; for
  any other word the first rule that matches replaces the matched part.  The
  case of the word carries over to what is put in its place (`matchCase`).

  A name always gets a plural different from itself (`pluralOf_ne`): where
  the word stays as it is, an `s` is added.
-/
import SchemaTables.Text.CaseMap
import SchemaTables.Text.PluralTables
import SchemaTables.Text.Substring

namespace SchemaTables.Text

/-! ## §1. Case. -/

/-- Write `new` in the case of `word`: a word in one case throughout gives
it to `new`, a word that begins with a capital leaves `new` as it is, and any
other word asks for small letters. -/
def matchCase (word new : List Char) : List Char :=
  if word = new then new
  else if word = lower word then lower new
  else if word = upper word then upper new
  else if word.head?.any isUppercase then new
  else lower new

/-! ## §2. Rules. -/

/-- Drop every dollar sign along with the character after it. -/
def dropMarks : List Char → List Char
  | '$' :: _ :: rest => dropMarks rest
  | c :: rest => c :: dropMarks rest
  | [] => []

/-- Put the groups, counted from `n` on, into a template. -/
def fillGroups (word : List Char) :
    Nat → List (List Char) → List Char → List Char
  | _, [], text => text
  | n, g :: gs, text =>
      fillGroups word (n + 1) gs
        (replaceAll ('$' :: (Nat.repr n).toList) (matchCase word g) text)

/-- The word with the matched part replaced, where the rule matches. -/
def PluralRule.apply? (rule : PluralRule) (word : List Char) :
    Option (List Char) :=
  (rule.pattern.search word).map fun m =>
    m.before ++
      dropMarks (fillGroups word 0 m.groups
        (matchCase word rule.template.toList)) ++
      m.after

/-! ## §3. Words. -/

/-- The plural of an irregular word, or the word itself where it already is
the plural of one. -/
def irregular? (word : List Char) : Option (List Char) :=
  let small := lower word
  if irregularPlurals.any fun e => e.2.toList = small then
    some (matchCase word small)
  else
    (irregularPlurals.find? fun e => e.1.toList = small).map fun e =>
      matchCase word e.2.toList

/-- The plural that English gives to a word, which may be the word itself. -/
def pluralize (word : List Char) : List Char :=
  match irregular? word with
  | some plural => plural
  | none =>
      let small := lower word
      if small.isEmpty || unchangingWords.any fun w => w.toList = small then
        word
      else (rulesInOrder.findSome? fun r => r.apply? word).getD word

/-- The plural of a name. -/
def pluralOf (name : String) : String :=
  let plural := String.ofList (pluralize name.toList)
  if plural = name then name ++ "s" else plural

/-- The plural of a name is another name. -/
theorem pluralOf_ne (name : String) : pluralOf name ≠ name := by
  simp only [pluralOf]
  split
  · intro h
    have := congrArg String.length h
    simp at this
  · assumption

end SchemaTables.Text
