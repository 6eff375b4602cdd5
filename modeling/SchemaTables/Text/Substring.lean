/-
  SchemaTables.Text.Substring
  ───────────────────────────
  **SEARCHING FOR A WORD IN A TEXT.**

  `occursIn w t` holds when `t` is `w` with some text before and after it.
-/

namespace SchemaTables.Text

/-- Does `word` stand anywhere in the text? -/
def occursIn (word : List Char) : List Char → Bool
  | [] => word.isEmpty
  | c :: rest => word.isPrefixOf (c :: rest) || occursIn word rest

theorem occursIn_iff (word text : List Char) :
    occursIn word text = true ↔ ∃ a b, text = a ++ word ++ b := by
  induction text with
  | nil =>
      simp only [occursIn, List.isEmpty_iff]
      constructor
      · rintro rfl
        exact ⟨[], [], rfl⟩
      · rintro ⟨a, b, h⟩
        have := congrArg List.length h
        simp only [List.length_nil, List.length_append] at this
        exact List.eq_nil_of_length_eq_zero (by omega)
  | cons c rest ih =>
      simp only [occursIn, Bool.or_eq_true, List.isPrefixOf_iff_prefix, ih]
      constructor
      · rintro (⟨b, h⟩ | ⟨a, b, h⟩)
        · exact ⟨[], b, by simpa using h.symm⟩
        · exact ⟨c :: a, b, by simp [h]⟩
      · rintro ⟨a, b, h⟩
        cases a with
        | nil => exact .inl ⟨b, by simpa using h.symm⟩
        | cons d a =>
            simp only [List.cons_append, List.cons.injEq] at h
            exact .inr ⟨a, b, h.2⟩

/-- Replace every occurrence of a word that is not empty, from left to
right. -/
def replaceAll (word new : List Char) (text : List Char) : List Char :=
  go text.length text
where
  /-- As `replaceAll`, for a text of at most `fuel` characters. -/
  go : Nat → List Char → List Char
    | 0, cs => cs
    | _, [] => []
    | fuel + 1, c :: rest =>
        if !word.isEmpty && word.isPrefixOf (c :: rest) then
          new ++ go fuel ((c :: rest).drop word.length)
        else c :: go fuel rest

end SchemaTables.Text
