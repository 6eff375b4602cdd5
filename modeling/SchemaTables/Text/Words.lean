/-
  SchemaTables.Text.Words
  ───────────────────────
  **SPLITTING A NAME INTO WORDS.**

  A name such as `editedBooks` or `XMLFile_2` is made of words.  A character
  that is neither letter nor digit separates words and belongs to none.  Among
  the other characters a word ends

      * after a small letter that a capital follows  (`edited|Books`),
      * before the last capital of several, when a small letter follows it
        (`XML|File`).

  Digits and letters without case continue whatever stands before them.

  `snake` joins the words in lower case by underscores, `lowerCamel` writes
  all words but the first with a capital and joins them by nothing.
-/
import SchemaTables.Text.Alphanumeric
import SchemaTables.Text.CaseMap

namespace SchemaTables.Text

/-! ## §1. Words. -/

/-- What the current word ends with, as far as the case of letters goes. -/
inductive WordTail where
  /-- Nothing, or a letter that has just begun a word. -/
  | fresh
  | lower
  | upper
  deriving DecidableEq

/-- The tail after one more character. -/
def WordTail.push (t : WordTail) (c : Char) : WordTail :=
  if isLowercase c then .lower else if isUppercase c then .upper else t

/-- Put a word, given last character first, in front of others; an empty
word is none. -/
def consWord (word : List Char) (words : List (List Char)) :
    List (List Char) :=
  if word.isEmpty then words else word.reverse :: words

/-- The words of a text, `word` being the current one, last character first. -/
def wordsFrom (tail : WordTail) (word : List Char) :
    List Char → List (List Char)
  | [] => consWord word []
  | c :: rest =>
      if !isAlphanumeric c then consWord word (wordsFrom .fresh [] rest)
      else
        match rest.head? with
        | none => consWord (c :: word) []
        | some next =>
            if tail.push c = .lower && isUppercase next then
              consWord (c :: word) (wordsFrom .fresh [] rest)
            else if tail = .upper && isUppercase c && isLowercase next then
              consWord word (wordsFrom .fresh [c] rest)
            else wordsFrom (tail.push c) (c :: word) rest

/-- The words of a name. -/
def words (cs : List Char) : List (List Char) := wordsFrom .fresh [] cs

/-! ## §2. Writing the words. -/

/-- A word in lower case; a sigma at its end is the final one. -/
def lowerWord : List Char → List Char
  | [] => []
  | [c] => if c = capitalSigma then [finalSigma] else lowerChar c
  | c :: rest => lowerChar c ++ lowerWord rest

/-- A word in lower case but for its first character. -/
def capitalWord : List Char → List Char
  | [] => []
  | c :: rest => upperChar c ++ lowerWord rest

/-- The words of a name in lower case, joined by underscores. -/
def snake (cs : List Char) : List Char :=
  List.intercalate ['_'] ((words cs).map lowerWord)

/-- The words of a name joined by nothing: the first in lower case, the
others with a capital. -/
def lowerCamel (cs : List Char) : List Char :=
  match words cs with
  | [] => []
  | w :: ws => lowerWord w ++ ws.flatMap capitalWord

/-- A name in lower case words joined by underscores. -/
def snakeCase (s : String) : String := String.ofList (snake s.toList)

/-- A name whose words after the first begin with a capital. -/
def lowerCamelCase (s : String) : String :=
  String.ofList (lowerCamel s.toList)

end SchemaTables.Text
