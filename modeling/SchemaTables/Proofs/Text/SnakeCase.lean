/-
  SchemaTables.Proofs.Text.SnakeCase
  ──────────────────────────────────
  **NAMES THAT SNAKE CASE LEAVES NOTHING OF.**

  Snake case drops every character that is neither letter nor digit, except
  that it puts underscores between words.  A name without words (`_`, `!`)
  becomes nothing at all, and no other name does (`snakeCase_eq_empty`).

  The words of a text are not empty, and there are none if and only if there
  is no letter or digit (`wordsFrom_eq_nil`).
-/
import SchemaTables.Text.Words

namespace SchemaTables.Text

/-! ## §1. Words. -/

/-- There is a letter or a digit in the text. -/
def hasWords (cs : List Char) : Bool := cs.any isAlphanumeric

/-- There is a letter or a digit in the name. -/
def HasWords (name : String) : Prop := hasWords name.toList = true

instance (name : String) : Decidable (HasWords name) :=
  inferInstanceAs (Decidable (hasWords name.toList = true))

theorem hasWords_append (cs ds : List Char) :
    hasWords (cs ++ ds) = (hasWords cs || hasWords ds) :=
  List.any_append

theorem hasWords_of_mem {cs : List Char} {c : Char} (hc : c ∈ cs)
    (h : isAlphanumeric c = true) : hasWords cs = true :=
  List.any_eq_true.mpr ⟨c, hc, h⟩

section Words

variable {tail : WordTail} {word cs : List Char} {ws : List (List Char)}

theorem consWord_eq_nil : consWord word ws = [] ↔ word = [] ∧ ws = [] := by
  unfold consWord
  cases word <;> simp

theorem nil_notMem_consWord : [] ∉ consWord word ws ↔ [] ∉ ws := by
  unfold consWord
  cases word <;> simp

/-- A text has no words if and only if it has no letters and digits; the
letters of the current word count as well. -/
theorem wordsFrom_eq_nil (cs : List Char) :
    ∀ {tail : WordTail} {word : List Char},
      wordsFrom tail word cs = [] ↔ word = [] ∧ hasWords cs = false := by
  induction cs with
  | nil =>
      intro tail word
      simp [wordsFrom, consWord_eq_nil, hasWords]
  | cons c rest ih =>
      intro tail word
      by_cases hc : isAlphanumeric c = true
      · -- the current word has the letter, wherever it ends
        have hne : wordsFrom tail word (c :: rest) ≠ [] := by
          unfold wordsFrom
          rw [hc, if_neg (by simp)]
          split
          · simp [consWord_eq_nil]
          · split
            · simp [consWord_eq_nil]
            · split
              · simp [consWord_eq_nil, ih]
              · simp [ih]
        simp [hne, hasWords, hc]
      · rw [Bool.not_eq_true] at hc
        unfold wordsFrom
        rw [hc, if_pos (by rfl), consWord_eq_nil, ih]
        simp [hasWords, hc]

/-- No word is empty. -/
theorem nil_notMem_wordsFrom (cs : List Char) :
    ∀ {tail : WordTail} {word : List Char},
      [] ∉ wordsFrom tail word cs := by
  induction cs with
  | nil =>
      intro tail word
      simp [wordsFrom, nil_notMem_consWord]
  | cons c rest ih =>
      intro tail word
      unfold wordsFrom
      split
      · exact nil_notMem_consWord.mpr ih
      · split
        · simp [nil_notMem_consWord]
        · split
          · exact nil_notMem_consWord.mpr ih
          · split
            · exact nil_notMem_consWord.mpr ih
            · exact ih

end Words

/-! ## §2. Writing them. -/

theorem lowerChar_ne_nil (c : Char) : lowerChar c ≠ [] := by
  unfold lowerChar
  split
  · simp
  · split <;> simp

theorem lowerWord_eq_nil {w : List Char} : lowerWord w = [] ↔ w = [] := by
  cases w with
  | nil => simp [lowerWord]
  | cons c rest =>
      cases rest with
      | nil =>
          unfold lowerWord
          split <;> simp [lowerChar_ne_nil]
      | cons d rest =>
          rw [lowerWord]
          · simp [lowerChar_ne_nil]
          · simp

/-- Nothing is left in snake case if there was no word. -/
theorem snake_eq_nil (cs : List Char) :
    snake cs = [] ↔ hasWords cs = false := by
  have hwords : words cs = [] ↔ hasWords cs = false := by
    unfold words
    rw [wordsFrom_eq_nil]
    simp
  rw [← hwords]
  unfold snake
  cases hw : words cs with
  | nil => simp
  | cons w ws =>
      -- the underscores do not matter: one word has letters enough
      have hne : w ≠ [] := by
        intro hnil
        apply nil_notMem_wordsFrom cs
        change [] ∈ words cs
        rw [hw, hnil]
        exact List.mem_cons_self
      cases ws with
      | nil => simp [lowerWord_eq_nil, hne]
      | cons v ws => simp

/-- A name is empty in snake case if and only if it has no words. -/
theorem snakeCase_eq_empty (name : String) :
    snakeCase name = "" ↔ ¬ HasWords name := by
  unfold snakeCase HasWords
  rw [String.ofList_eq_empty_iff, snake_eq_nil, Bool.not_eq_true]

end SchemaTables.Text
