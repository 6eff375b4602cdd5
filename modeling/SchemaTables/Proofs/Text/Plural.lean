/-
  SchemaTables.Proofs.Text.Plural
  ───────────────────────────────
  **PLURALS HAVE WORDS.**

  The plural that is made from an identifier has a letter or a digit, even if
  the identifier has none (`hasWords_pluralOf`).

  Three things can happen to a word.  It stays as it is, and an `s` is added.
  It is irregular, and its plural comes from a table.  Or a rule puts a
  template in the place of the matched part.  Most templates have a letter of
  their own, which no replacement of a group takes away
  (`fillGroups_keeps`); the others put the matched part back, in another case
  at most (`PluralRule.hasWords_of_putsBack`).
-/
import SchemaTables.Proofs.Text.CamelCase
import SchemaTables.Proofs.Text.Pattern
import SchemaTables.Proofs.Text.SnakeCase
import SchemaTables.Text.Plural

namespace SchemaTables.Text

/-! ## §1. Identifiers. -/

/-- Is this an ASCII letter or digit, or an underscore? -/
def isNameChar (c : Char) : Bool := c.isAlphanum || c = '_'

/-- The name is made of ASCII letters, digits and underscores. -/
def IsIdentifier (name : String) : Prop :=
  ∀ c ∈ name.toList, isNameChar c = true

instance (name : String) : Decidable (IsIdentifier name) :=
  inferInstanceAs (Decidable (∀ c ∈ name.toList, isNameChar c = true))

/-- The function changes the case of letters at most. -/
structure Recases (f : Char → Char) : Prop where
  nameChar : ∀ {c}, isNameChar c = true → isNameChar (f c) = true
  alphanumeric : ∀ {c}, isNameChar c = true →
    isAlphanumeric (f c) = isAlphanumeric c
  same : ∀ {c}, isNameChar c = true → isAlphanumeric c = false → f c = c

section Characters

variable {c : Char} {cs : List Char} {f : Char → Char}

theorem toNat_lt_of_isNameChar (h : isNameChar c = true) : c.toNat < 128 := by
  unfold isNameChar at h
  rw [Bool.or_eq_true, decide_eq_true_eq] at h
  rcases h with h | rfl
  · change (c.isUpper || c.isLower || c.isDigit) = true at h
    rw [Bool.or_eq_true, Bool.or_eq_true] at h
    rcases h with (hupper | hlower) | hdigit
    · exact toNat_lt_of_isUpper hupper
    · exact toNat_lt_of_isSmall (by simp [isSmall, hlower])
    · exact toNat_lt_of_isSmall (by simp [isSmall, hdigit])
  · decide

/-- Is this what `Recases` asks for? -/
def recasesAt (f : Char → Char) (c : Char) : Bool :=
  !isNameChar c || (isNameChar (f c) &&
    isAlphanumeric (f c) == isAlphanumeric c && (isAlphanumeric c || f c = c))

theorem recases_of_ascii
    (h : ∀ n : Fin 128, recasesAt f (Char.ofNat n) = true) : Recases f := by
  have hall : ∀ {c}, isNameChar c = true → isNameChar (f c) = true ∧
      isAlphanumeric (f c) = isAlphanumeric c ∧
      (isAlphanumeric c = true ∨ f c = c) := by
    intro c hc
    have hat := forall_ascii h (toNat_lt_of_isNameChar hc)
    simpa [recasesAt, hc, and_assoc] using hat
  refine ⟨fun hc => (hall hc).1, fun hc => (hall hc).2.1, fun hc hnot => ?_⟩
  exact (hall hc).2.2.resolve_left (by rw [hnot]; simp)

theorem recases_id : Recases id := ⟨id, fun _ => rfl, fun _ _ => rfl⟩

theorem recases_toLower : Recases Char.toLower :=
  recases_of_ascii (by decide +kernel)

theorem recases_toUpper : Recases Char.toUpper :=
  recases_of_ascii (by decide +kernel)

theorem lowerAfter_of_nameChars (h : ∀ c ∈ cs, isNameChar c = true) :
    ∀ before, lowerAfter before cs = cs.map Char.toLower := by
  induction cs with
  | nil => intro before; rfl
  | cons c cs ih =>
      intro before
      have hc := toNat_lt_of_isNameChar (h c List.mem_cons_self)
      rw [lowerAfter, ih fun d hd => h d (List.mem_cons_of_mem c hd),
        if_neg (by simp [ne_capitalSigma hc]), lowerChar, if_pos hc]
      rfl

theorem upper_of_nameChars (h : ∀ c ∈ cs, isNameChar c = true) :
    upper cs = cs.map Char.toUpper := by
  unfold upper
  induction cs with
  | nil => rfl
  | cons c cs ih =>
      have hc := toNat_lt_of_isNameChar (h c List.mem_cons_self)
      rw [List.flatMap_cons, ih fun d hd => h d (List.mem_cons_of_mem c hd),
        upperChar, if_pos hc]
      rfl

/-- A case is one of three. -/
theorem matchCase_cases (word new : List Char) :
    matchCase word new = new ∨ matchCase word new = lower new ∨
      matchCase word new = upper new := by
  unfold matchCase
  split
  · exact .inl rfl
  · split
    · exact .inr (.inl rfl)
    · split
      · exact .inr (.inr rfl)
      · split
        · exact .inl rfl
        · exact .inr (.inl rfl)

/-- A part of an identifier is only changed in the case of its letters. -/
theorem matchCase_eq_map (word : List Char)
    (h : ∀ c ∈ cs, isNameChar c = true) :
    ∃ f, Recases f ∧ matchCase word cs = cs.map f := by
  rcases matchCase_cases word cs with hcase | hcase | hcase
  · exact ⟨id, recases_id, by rw [hcase, List.map_id]⟩
  · exact ⟨_, recases_toLower, hcase.trans (lowerAfter_of_nameChars h [])⟩
  · exact ⟨_, recases_toUpper, hcase.trans (upper_of_nameChars h)⟩

theorem hasWords_matchCase (word : List Char)
    (h : ∀ c ∈ cs, isNameChar c = true) :
    hasWords (matchCase word cs) = hasWords cs := by
  obtain ⟨f, hf, heq⟩ := matchCase_eq_map word h
  unfold hasWords
  rw [heq, List.any_map, Bool.eq_iff_iff, List.any_eq_true, List.any_eq_true]
  refine exists_congr fun c => and_congr_right fun hc => ?_
  rw [Function.comp_apply, hf.alphanumeric (h c hc)]

/-- Without letters nothing changes. -/
theorem matchCase_of_no_words (word : List Char)
    (h : ∀ c ∈ cs, isNameChar c = true) (hno : hasWords cs = false) :
    matchCase word cs = cs := by
  obtain ⟨f, hf, heq⟩ := matchCase_eq_map word h
  have hsame : ∀ c ∈ cs, f c = id c := by
    intro c hc
    have hnot : isAlphanumeric c = false := by
      simpa using List.any_eq_false.mp hno c hc
    exact hf.same (h c hc) hnot
  rw [heq, List.map_congr_left hsame, List.map_id]

theorem dollar_notMem_matchCase (word : List Char)
    (h : ∀ c ∈ cs, isNameChar c = true) : '$' ∉ matchCase word cs := by
  obtain ⟨f, hf, heq⟩ := matchCase_eq_map word h
  rw [heq, List.mem_map]
  intro hmem
  obtain ⟨c, hc, hdollar⟩ := hmem
  have := hf.nameChar (h c hc)
  rw [hdollar] at this
  exact absurd this (by decide)

end Characters

/-! ## §2. Templates. -/

/-- Does every dollar sign mark a group?  A last one marks nothing, and is
kept. -/
def isTemplate : List Char → Bool
  | '$' :: d :: rest => d.isDigit && isTemplate rest
  | _ :: rest => isTemplate rest
  | [] => true

section Templates

variable {c y : Char} {cs ds new text : List Char}

theorem isTemplate_cons (h : c ≠ '$') :
    isTemplate (c :: cs) = isTemplate cs := by
  rw [isTemplate]
  intro d rest heq
  exact absurd heq h

theorem dropMarks_cons (h : c ≠ '$') :
    dropMarks (c :: cs) = c :: dropMarks cs := by
  rw [dropMarks]
  intro d rest heq
  exact absurd heq h

theorem isTemplate_append (h : '$' ∉ cs) (ds : List Char) :
    isTemplate (cs ++ ds) = isTemplate ds := by
  induction cs with
  | nil => rfl
  | cons c cs ih =>
      rw [List.mem_cons, not_or] at h
      rw [List.cons_append, isTemplate_cons (Ne.symm h.1), ih h.2]

theorem dropMarks_append (h : '$' ∉ cs) (ds : List Char) :
    dropMarks (cs ++ ds) = cs ++ dropMarks ds := by
  induction cs with
  | nil => rfl
  | cons c cs ih =>
      rw [List.mem_cons, not_or] at h
      rw [List.cons_append, dropMarks_cons (Ne.symm h.1), ih h.2,
        List.cons_append]

theorem dropMarks_of_plain (h : '$' ∉ cs) : dropMarks cs = cs := by
  have := dropMarks_append h []
  rwa [List.append_nil, dropMarks, List.append_nil] at this

theorem dollar_ne_of_isDigit (h : y.isDigit = true) : y ≠ '$' := by
  rintro rfl
  exact absurd h (by decide)

/-- Replacing a mark leaves a template and the letters of its own. -/
structure Keeps (text text' : List Char) : Prop where
  template : isTemplate text' = true
  letters : ∀ y, y.isDigit = false → y ∈ dropMarks text → y ∈ dropMarks text'

theorem Keeps.refl (h : isTemplate text = true) : Keeps text text :=
  ⟨h, fun _ _ hy => hy⟩

theorem Keeps.trans {text' text'' : List Char} (h : Keeps text text')
    (h' : Keeps text' text'') : Keeps text text'' :=
  ⟨h'.template, fun y hdigit hy => h'.letters y hdigit (h.letters y hdigit hy)⟩

theorem Keeps.cons (hc : c ≠ '$') (h : Keeps cs ds) :
    Keeps (c :: cs) (c :: ds) := by
  refine ⟨by rw [isTemplate_cons hc, h.template], fun y hdigit hy => ?_⟩
  rw [dropMarks_cons hc, List.mem_cons] at hy ⊢
  exact hy.imp_right (h.letters y hdigit)

theorem Keeps.mark {d : Char} (hd : d.isDigit = true) (h : Keeps cs ds) :
    Keeps ('$' :: d :: cs) ('$' :: d :: ds) := by
  refine ⟨?_, h.letters⟩
  rw [isTemplate, hd, h.template]
  rfl

/-- A mark begins with a dollar sign, and other characters are passed over. -/
theorem replaceAll_go_skip (ds new : List Char) (fuel : Nat) (h : c ≠ '$') :
    replaceAll.go ('$' :: ds) new (fuel + 1) (c :: cs) =
      c :: replaceAll.go ('$' :: ds) new fuel cs := by
  have hc : ('$' == c) = false := beq_eq_false_iff_ne.mpr h.symm
  rw [replaceAll.go, if_neg (by simp [List.isPrefixOf, hc])]

section Marks

variable {d : Char} {marks : List Char}
  (hdigits : ∀ x ∈ d :: marks, x.isDigit = true)

include hdigits

theorem dollar_notMem_digits : '$' ∉ marks := fun hmem =>
  dollar_ne_of_isDigit (hdigits _ (List.mem_cons_of_mem d hmem)) rfl

theorem isTemplate_of_mark
    (h : isTemplate ('$' :: (d :: marks) ++ cs) = true) :
    isTemplate cs = true := by
  change (d.isDigit && isTemplate (marks ++ cs)) = true at h
  rw [Bool.and_eq_true,
    isTemplate_append (dollar_notMem_digits hdigits)] at h
  exact h.2

/-- The mark itself goes, and what comes in its place stays. -/
theorem Keeps.replaced (hnew : '$' ∉ new) (h : Keeps cs ds) :
    Keeps ('$' :: (d :: marks) ++ cs) (new ++ ds) := by
  refine ⟨by rw [isTemplate_append hnew, h.template], ?_⟩
  intro y hdigit hy
  change y ∈ dropMarks (marks ++ cs) at hy
  rw [dropMarks_append (dollar_notMem_digits hdigits), List.mem_append] at hy
  rw [dropMarks_append hnew, List.mem_append]
  rcases hy with hy | hy
  · -- the mark has digits only
    rw [hdigits y (List.mem_cons_of_mem d hy)] at hdigit
    cases hdigit
  · exact .inr (h.letters y hdigit hy)

/-- Replacing the mark of a group. -/
theorem replaceAll_go_keeps (hnew : '$' ∉ new) :
    ∀ (fuel : Nat) {text : List Char}, isTemplate text = true →
      Keeps text (replaceAll.go ('$' :: d :: marks) new fuel text) := by
  intro fuel
  -- a mark that is passed over takes two steps
  induction fuel using Nat.strongRecOn with
  | ind fuel ih =>
      intro text h
      cases fuel with
      | zero => exact .refl h
      | succ fuel =>
          cases text with
          | nil => exact .refl h
          | cons c rest =>
              by_cases hc : c = '$'
              · subst hc
                rw [replaceAll.go]
                split
                · next hprefix =>
                    obtain ⟨cs, hcs⟩ := List.isPrefixOf_iff_prefix.mp
                      (Bool.and_eq_true .. ▸ hprefix).2
                    rw [← hcs] at h ⊢
                    rw [List.drop_left]
                    exact .replaced hdigits hnew (ih fuel (Nat.lt_succ_self _)
                      (isTemplate_of_mark hdigits h))
                · cases rest with
                  | nil => cases fuel <;> exact .refl h
                  | cons x rest =>
                      rw [isTemplate, Bool.and_eq_true] at h
                      cases fuel with
                      | zero => exact .mark h.1 (.refl h.2)
                      | succ fuel =>
                          rw [replaceAll_go_skip _ _ _
                            (dollar_ne_of_isDigit h.1)]
                          exact .mark h.1 (ih fuel (by omega) h.2)
              · rw [replaceAll_go_skip _ _ _ hc]
                rw [isTemplate_cons hc] at h
                exact .cons hc (ih fuel (Nat.lt_succ_self _) h)

end Marks

/-- The marks of groups are a dollar sign and digits. -/
theorem repr_eq_cons (n : Nat) : ∃ d marks, (Nat.repr n).toList = d :: marks ∧
    ∀ x ∈ d :: marks, x.isDigit = true := by
  have hdigits : ∀ x ∈ (Nat.repr n).toList, x.isDigit = true := by
    intro x hx
    rw [Nat.repr, String.toList_ofList] at hx
    exact Nat.isDigit_of_mem_toDigits (by decide) (by decide) hx
  cases hrepr : (Nat.repr n).toList with
  | nil =>
      rw [Nat.repr, String.toList_ofList] at hrepr
      exact absurd hrepr Nat.toDigits_ne_nil
  | cons d marks => exact ⟨d, marks, rfl, hrepr ▸ hdigits⟩

/-- Groups of an identifier can be put into a template. -/
theorem fillGroups_keeps (word : List Char) (gs : List (List Char)) :
    ∀ (n : Nat) {text : List Char},
      (∀ g ∈ gs, ∀ c ∈ g, isNameChar c = true) → isTemplate text = true →
      Keeps text (fillGroups word n gs text) := by
  induction gs with
  | nil => intro n text _ h; exact .refl h
  | cons g gs ih =>
      intro n text hgs h
      obtain ⟨d, marks, hrepr, hdigits⟩ := repr_eq_cons n
      have hnew : '$' ∉ matchCase word g :=
        dollar_notMem_matchCase word (hgs g List.mem_cons_self)
      have hfirst := replaceAll_go_keeps hdigits hnew text.length h
      rw [fillGroups, hrepr]
      exact hfirst.trans (ih (n + 1)
        (fun g' hg' => hgs g' (List.mem_cons_of_mem g hg')) hfirst.template)

/-- A text without marks stays as it is. -/
theorem replaceAll_go_of_plain (ds new : List Char) :
    ∀ (fuel : Nat) {text : List Char}, '$' ∉ text →
      replaceAll.go ('$' :: ds) new fuel text = text := by
  intro fuel
  induction fuel with
  | zero => intro text _; rfl
  | succ fuel ih =>
      intro text h
      cases text with
      | nil => rfl
      | cons c rest =>
          rw [List.mem_cons, not_or] at h
          rw [replaceAll_go_skip _ _ _ (Ne.symm h.1), ih h.2]

theorem fillGroups_of_plain (word : List Char) (gs : List (List Char)) :
    ∀ (n : Nat) {text : List Char}, '$' ∉ text →
      fillGroups word n gs text = text := by
  induction gs with
  | nil => intro n text _; rfl
  | cons g gs ih =>
      intro n text h
      rw [fillGroups, replaceAll, replaceAll_go_of_plain _ _ _ h, ih _ h]

end Templates

/-! ## §3. Rules. -/

/-- Is there a letter in the text that belongs to no mark? -/
def hasOwnLetter (text : List Char) : Bool :=
  isTemplate text &&
    (dropMarks text).any fun c => isAlphanumeric c && !c.isDigit

namespace PluralRule

/-- Does the template have a letter of its own, in any case? -/
def addsLetter (rule : PluralRule) : Bool :=
  let text := rule.template.toList
  hasOwnLetter text && hasOwnLetter (lower text) && hasOwnLetter (upper text)

/-- Does the rule put back what it has matched? -/
def putsBack (rule : PluralRule) : Bool :=
  rule.template = "$0" ||
    (rule.template = "$1" && rule.pattern.isWholeGroup)

theorem addsLetter_or_putsBack :
    ∀ rule ∈ rulesInOrder, rule.addsLetter = true ∨ rule.putsBack = true := by
  have hall : (rulesInOrder.all fun rule =>
      rule.addsLetter || rule.putsBack) = true := by decide +kernel
  intro rule hrule
  simpa using List.all_eq_true.mp hall rule hrule

section Apply

variable {rule : PluralRule} {word out : List Char}

/-- What comes of a template with a letter of its own has this letter. -/
theorem hasWords_of_addsLetter (hword : ∀ c ∈ word, isNameChar c = true)
    (hrule : rule.addsLetter = true) (h : rule.apply? word = some out) :
    hasWords out = true := by
  obtain ⟨m, hm, rfl⟩ := Option.map_eq_some_iff.mp h
  obtain ⟨whole, groups, hmatch⟩ := Pattern.search_isMatch hm
  have hgroups : ∀ g ∈ m.groups, ∀ c ∈ g, isNameChar c = true := by
    rw [hmatch.recorded]
    exact fun g hg c hc => hword c (hmatch.parts g hg hc)
  -- the template is put into a case before its groups are filled in
  have hown : hasOwnLetter (matchCase word rule.template.toList) = true := by
    unfold addsLetter at hrule
    simp only [Bool.and_eq_true] at hrule
    rcases matchCase_cases word rule.template.toList with heq | heq | heq
    · rw [heq]
      exact hrule.1.1
    · rw [heq]
      exact hrule.1.2
    · rw [heq]
      exact hrule.2
  unfold hasOwnLetter at hown
  rw [Bool.and_eq_true, List.any_eq_true] at hown
  obtain ⟨htemplate, y, hy, hletter⟩ := hown
  rw [Bool.and_eq_true, Bool.not_eq_true'] at hletter
  have hkept := (fillGroups_keeps word m.groups 0 hgroups htemplate).letters
    y hletter.2 hy
  exact hasWords_of_mem (List.mem_append_left _
    (List.mem_append_right _ hkept)) hletter.1

/-- A mark alone stands for what is put in its place. -/
theorem fill_of_putsBack {whole : List Char} {groups : List (List Char)}
    (hwhole : ∀ c ∈ whole, isNameChar c = true)
    (hrule : rule.putsBack = true)
    (hgroups : rule.pattern.isWholeGroup = true → groups = [whole]) :
    dropMarks (fillGroups word 0 (whole :: groups)
      (matchCase word rule.template.toList)) = matchCase word whole := by
  have hplain := dollar_notMem_matchCase word hwhole
  -- a mark has no case
  have hsame : ∀ text : List Char, lower text = text → upper text = text →
      matchCase word text = text := by
    intro text hlower hupper
    rcases matchCase_cases word text with heq | heq | heq
    · exact heq
    · exact heq.trans hlower
    · exact heq.trans hupper
  unfold putsBack at hrule
  rw [Bool.or_eq_true, Bool.and_eq_true, decide_eq_true_eq,
    decide_eq_true_eq] at hrule
  rcases hrule with htemplate | ⟨htemplate, hgroup⟩
  · -- the match is put in first, and leaves no mark for its groups
    have hfirst : replaceAll ('$' :: (Nat.repr 0).toList)
        (matchCase word whole) ['$', '0'] = matchCase word whole :=
      List.append_nil _
    rw [htemplate, hsame _ (by decide +kernel) (by decide +kernel), fillGroups]
    change dropMarks (fillGroups word 1 groups (replaceAll _ _ ['$', '0'])) = _
    rw [hfirst, fillGroups_of_plain word groups 1 hplain,
      dropMarks_of_plain hplain]
  · -- the first group is all of the match
    have hsecond : replaceAll ('$' :: (Nat.repr 1).toList)
        (matchCase word whole)
        (replaceAll ('$' :: (Nat.repr 0).toList) (matchCase word whole)
          ['$', '1']) = matchCase word whole :=
      List.append_nil _
    rw [htemplate, hsame _ (by decide +kernel) (by decide +kernel),
      hgroups hgroup, fillGroups, fillGroups, fillGroups]
    change dropMarks (replaceAll _ _ (replaceAll _ _ ['$', '1'])) = _
    rw [hsecond, dropMarks_of_plain hplain]

/-- Where the match is put back, the word keeps its letters, or stays as it
is. -/
theorem hasWords_of_putsBack (hword : ∀ c ∈ word, isNameChar c = true)
    (hrule : rule.putsBack = true) (h : rule.apply? word = some out) :
    hasWords out = true ∨ out = word := by
  obtain ⟨m, hm, rfl⟩ := Option.map_eq_some_iff.mp h
  obtain ⟨whole, groups, hmatch⟩ := Pattern.search_isMatch hm
  have hwhole : ∀ c ∈ whole, isNameChar c = true := fun c hc =>
    hword c (hmatch.parts whole List.mem_cons_self hc)
  rw [hmatch.recorded, fill_of_putsBack hwhole hrule hmatch.wholeGroup]
  by_cases hwords : hasWords word = true
  · left
    rw [hmatch.split, hasWords_append, hasWords_append] at hwords
    rw [hasWords_append, hasWords_append, hasWords_matchCase word hwhole,
      Bool.or_assoc]
    exact hwords
  · right
    rw [Bool.not_eq_true, hmatch.split, hasWords_append, hasWords_append,
      Bool.or_eq_false_iff, Bool.or_eq_false_iff] at hwords
    rw [matchCase_of_no_words word hwhole hwords.2.1, List.append_assoc]
    exact hmatch.split.symm

end Apply

end PluralRule

/-! ## §4. Plurals. -/

/-- The plurals of irregular words have letters. -/
theorem irregularPlurals_words : ∀ e ∈ irregularPlurals,
    (∀ c ∈ e.2.toList, isNameChar c = true) ∧ HasWords e.2 := by
  have htable : irregularPlurals.all (fun e =>
      e.2.toList.all isNameChar && hasWords e.2.toList) = true := by
    decide +kernel
  intro e he
  have hentry := List.all_eq_true.mp htable e he
  rw [Bool.and_eq_true, List.all_eq_true] at hentry
  exact hentry

theorem hasWords_irregular {word out : List Char}
    (h : irregular? word = some out) : hasWords out = true := by
  have hcase : ∀ e ∈ irregularPlurals,
      hasWords (matchCase word e.2.toList) = true := by
    intro e he
    obtain ⟨hchars, hwords⟩ := irregularPlurals_words e he
    rw [hasWords_matchCase word hchars]
    exact hwords
  unfold irregular? at h
  dsimp only at h
  split at h
  · next hplural =>
      obtain ⟨e, he, hsmall⟩ := List.any_eq_true.mp hplural
      rw [decide_eq_true_eq] at hsmall
      cases h
      rw [← hsmall]
      exact hcase e he
  · obtain ⟨e, he, rfl⟩ := Option.map_eq_some_iff.mp h
    exact hcase e (List.mem_of_find?_eq_some he)

/-- The plural of a word has a letter or a digit, or it is the word. -/
theorem hasWords_pluralize {word : List Char}
    (hword : ∀ c ∈ word, isNameChar c = true) :
    hasWords (pluralize word) = true ∨ pluralize word = word := by
  unfold pluralize
  split
  · next plural hplural => exact .inl (hasWords_irregular hplural)
  · dsimp only
    split
    · exact .inr rfl
    · cases hfirst : rulesInOrder.findSome? fun r => r.apply? word with
      | none => exact .inr rfl
      | some out =>
          obtain ⟨rule, hrule, happly⟩ := List.exists_of_findSome?_eq_some
            hfirst
          rcases PluralRule.addsLetter_or_putsBack rule hrule with hadds | hback
          · exact .inl (PluralRule.hasWords_of_addsLetter hword hadds happly)
          · exact PluralRule.hasWords_of_putsBack hword hback happly

/-- The plural of an identifier has a letter or a digit. -/
theorem hasWords_pluralOf {name : String} (h : IsIdentifier name) :
    HasWords (pluralOf name) := by
  unfold pluralOf HasWords
  dsimp only
  split
  · rw [String.toList_append, hasWords_append]
    exact Bool.or_eq_true_iff.mpr (.inr (by decide))
  · next hne =>
      rw [String.toList_ofList]
      refine (hasWords_pluralize h).resolve_right fun heq => hne ?_
      -- a word that is its own plural was given an `s` above
      rw [heq, String.ofList_toList]

end SchemaTables.Text
